import GraphPipeline.Proofs.Compile.Forms
import GraphPipeline.Proofs.Compile.Stages
import GraphPipeline.Proofs.ListFilters

/-!
# The list of a chain

A chain that is in a list knows the frame that maps it by its position.  The
position is set by fields and by the pages of a connection, moved into the
frames around a projection and used to count filters and to build dictionaries.
At every stage of a compilation it is the position of the one frame of the
pipeline that maps a list, and what that frame counts are the filters the steps
have applied to the list.
-/

namespace GraphPipeline

def Step.isDictionary : Step → Bool
  | .toDictionary _ _ _ => true
  | _ => false

namespace Pipeline

/-- What steps lead to before a dictionary is made of it. -/
def listing (steps : List Step) : Filtering :=
  filteringOfSteps (steps.filter fun step => !step.isDictionary) (.single [])

/-- The filters that the elements of the list come to which some steps lead
to. -/
def elementFilters (steps : List Step) : List ElementFilter :=
  match listing steps with
  | .list filters => filters
  | _ => []

theorem filteringOfSteps_append (steps more : List Step) (before : Filtering) :
    filteringOfSteps (steps ++ more) before =
      filteringOfSteps more (filteringOfSteps steps before) := by
  induction steps generalizing before with
  | nil => rfl
  | cons step steps induction => exact induction _

theorem listing_concat (steps : List Step) (step : Step) :
    listing (steps ++ [step]) =
      if step.isDictionary then listing steps
      else filteringOfStep step (listing steps) := by
  unfold listing
  rw [List.filter_append, filteringOfSteps_append]
  cases kind : step.isDictionary <;> simp [kind, filteringOfSteps]

end Pipeline

theorem Position.isDictionary_eq_false {position : Position} :
    position.isDictionary = false ↔ position.kind ≠ .dictionary := by
  cases position <;> simp [Position.isDictionary, Position.kind]

section steps

variable {document : CompileState} {named : String → Prop}

/-! ### Dictionaries end their chains -/

theorem terminal_of_walksSteps {scopes : Scopes} {chain last : Chain}
    {steps : List Step}
    (walks : Compile.WalksSteps document scopes steps chain last)
    (goesOn : last.terminal = none) : chain.terminal = none := by
  cases walks with
  | nil => exact goesOn
  | cons terminal _ _ => exact terminal

theorem Form.field_noDictionary (before : Form) (type : TypeRef) :
    (before.field type).kind ≠ .dictionary := by
  unfold Form.field
  split <;> simp

mutual

/-- A chain that is not ended leads to no dictionary. -/
theorem walks_noDictionary {scopes : Scopes} {last : Chain}
    (pipeline : Pipeline) (formed : document.WellFormed named)
    (walks : Compile.Walks document scopes pipeline last)
    (goesOn : last.terminal = none) :
    last.form.kind ≠ .dictionary := by
  cases pipeline with
  | mk source steps =>
      cases walks with
      | mk resolved walks =>
          exact walksSteps_noDictionary steps formed walks
            (by simp [Chain.start, Chain.form, Position.kind]) goesOn
termination_by structural pipeline

theorem walksSteps_noDictionary {scopes : Scopes} {chain last : Chain}
    (steps : List Step) (formed : document.WellFormed named)
    (walks : Compile.WalksSteps document scopes steps chain last)
    (before : chain.form.kind ≠ .dictionary) (goesOn : last.terminal = none) :
    last.form.kind ≠ .dictionary := by
  cases steps with
  | nil =>
      cases walks
      exact before
  | cons step rest =>
      cases walks with
      | @cons _ _ _ _ next _ _ first others =>
          have plain :=
            Chain.isTerminal_of_endedBy (terminal_of_walksSteps others goesOn)
          have after := walksStep_noDictionary step formed first before plain
          rw [← next.form_endedBy step] at after
          exact walksSteps_noDictionary rest formed others after goesOn
termination_by structural steps

theorem walksStep_noDictionary {scopes : Scopes} {paginate : Bool}
    {chain next : Chain}
    (step : Step) (formed : document.WellFormed named)
    (walks : Compile.WalksStep document scopes step paginate chain next)
    (before : chain.form.kind ≠ .dictionary) (plain : step.isTerminal = false) :
    next.form.kind ≠ .dictionary := by
  have form := walksStep_form step formed walks
  cases step with
  | property definition =>
      rw [form]
      exact Form.field_noDictionary _ _
  | call definition arguments =>
      rw [form]
      exact Form.field_noDictionary _ _
  | allPages nodes => simp [form, Pipeline.formOfStep, Form.objects]
  | cast typeName =>
      rw [form]
      exact before
  | filter typeName =>
      rw [form]
      exact before
  | record parameter fields => simp [form, Pipeline.formOfStep, Form.made]
  | value parameter inner =>
      cases walks with
      | valueEnded => simp [Chain.form, Position.kind]
      | @valueContinued _ _ _ _ _ last _ _ goesOn walks _ =>
          have inside : last.form.kind ≠ .dictionary :=
            walks_noDictionary inner formed walks
              (walks_unended inner formed walks goesOn).terminal
          exact inside
  | single => cases plain
  | singleOrDefault => cases plain
  | toList => cases plain
  | toDictionary parameter key value => cases plain
termination_by structural step

end

theorem Chain.Lays.framed_of_noDictionary {chain : Chain}
    {filtering : Filtering}
    (lays : chain.Lays filtering)
    (noDictionary : chain.position.isDictionary = false) :
    filtering.Framed chain.frames chain.list := by
  cases lays with
  | framed framed _ => exact framed
  | dictionary ended =>
      rw [noDictionary] at ended
      cases ended

/-! ### What every stage keeps -/

/-- The frames of a chain hold the list and the filters of the steps that led to
it.  It stands at a dictionary only if it is ended, and then it is in a list. -/
structure Chain.Lists (steps rest : List Step) (chain : Chain) : Prop where
  framed : (Pipeline.listing steps).Framed chain.frames chain.list
  waits : chain.Waits (rest.head?.any Step.isAllPages)
  goesOn : chain.terminal = none →
    chain.enforceSingle = false ∧ chain.position.isDictionary = false
  dictionary : chain.position.isDictionary = true →
    chain.list.isSome = true ∧ chain.enforceSingle = false

theorem start_lists (scopes : Scopes) (depth : Nat) (scope : Scope)
    (steps : List Step) :
    (Chain.start [] scopes depth scope).Lists [] steps where
  framed := (start_lays scopes depth scope).framed_of_noDictionary rfl
  waits := Chain.waits_of_none rfl
  goesOn _ := ⟨rfl, rfl⟩
  dictionary ended := by cases ended

/-- A dictionary is made of what the steps before it lead to. -/
theorem toDictionary_lists {scopes : Scopes} {parameter : Parameter}
    {key value : Pipeline} {paginate : Bool} {done rest : List Step}
    {chain next : Chain}
    (terminal : chain.terminal = none)
    (lists : chain.Lists done (.toDictionary parameter key value :: rest))
    (walks :
      Compile.WalksStep document scopes (.toDictionary parameter key value)
        paginate chain next) :
    (next.endedBy (.toDictionary parameter key value)).Lists
      (done ++ [.toDictionary parameter key value]) rest := by
  cases walks with
  | toDictionary listed atObject =>
      refine ⟨?_, Chain.waits_of_none lists.waits.none, ?_, fun _ => ?_⟩
      · rw [Pipeline.listing_concat]
        exact lists.framed
      · intro goesOn
        cases goesOn
      · exact ⟨Option.isSome_of_eq_some listed, (lists.goesOn terminal).1⟩

/-- Any other step leads from an object, a value or a list to one. -/
theorem walksStep_kind {scopes : Scopes} {step : Step} {paginate : Bool}
    {chain next : Chain}
    (formed : document.WellFormed named)
    (walks : Compile.WalksStep document scopes step paginate chain next)
    (before : chain.form.kind ≠ .dictionary)
    (other : step.isDictionary = false) :
    next.form.kind ≠ .dictionary := by
  cases terminal : step.isTerminal with
  | false => exact walksStep_noDictionary step formed walks before terminal
  | true =>
      cases step with
      | single | singleOrDefault | toList =>
          cases walks
          exact before
      | toDictionary => cases other
      | _ => cases terminal

/-- Every step of a walk keeps the frames of the list and its filters. -/
theorem walksStep_lists {scopes : Scopes} {step : Step} {done rest : List Step}
    {chain next : Chain} (formed : document.WellFormed named)
    (terminal : chain.terminal = none) (lists : chain.Lists done (step :: rest))
    (walks :
      Compile.WalksStep document scopes step (rest.head?.any Step.isAllPages)
        chain
        next) : (next.endedBy step).Lists (done ++ [step]) rest := by
  obtain ⟨single, noDictionary⟩ := lists.goesOn terminal
  cases kind : step.isDictionary with
  | true =>
      cases step with
      | toDictionary parameter key value =>
        exact toDictionary_lists terminal lists walks
      | _ => cases kind
  | false =>
      have nextKind := walksStep_kind formed walks
        (Position.isDictionary_eq_false.mp noDictionary) kind
      have nextOpen : (next.endedBy step).position.isDictionary = false := by
        rw [← next.form_endedBy step] at nextKind
        exact Position.isDictionary_eq_false.mpr nextKind
      obtain ⟨lays, waits⟩ := walksStep_lays step formed walks
        (.framed lists.framed noDictionary) lists.waits
      refine ⟨?_, waits.endedBy step, fun goesOn => ⟨?_, nextOpen⟩,
        fun ended => ?_⟩
      · rw [Pipeline.listing_concat, if_neg (by simp [kind])]
        exact (lays.endedBy step).framed_of_noDictionary nextOpen
      · have plain := Chain.isTerminal_of_endedBy goesOn
        rw [Chain.endedBy, if_neg (by simp [plain])]
        exact (walksStep_unended step formed walks ⟨terminal, single⟩
          plain).enforceSingle
      · rw [nextOpen] at ended
        cases ended

end steps

/-! ### The frame of the list -/

namespace Filtering.Framed

variable {filtering : Filtering} {frames : List Frame} {list : Option Nat}

theorem isMapList_keeps {inner : List Frame}
    (keeps : ∀ frame ∈ inner, frame.keepsEntry = true) :
    ∀ frame ∈ inner, frame.isMapList = false :=
  fun frame member => isMapList_of_keepsEntry (keeps frame member)

/-- Among frames around and inside of which no list is mapped, the list is
mapped at the frame between them. -/
theorem index_of_mapList {outer inner : List Frame} {middle : Frame}
    {index count : Nat}
    (before : ∀ frame ∈ outer, frame.isMapList = false)
    (after : ∀ frame ∈ inner, frame.isMapList = false)
    (found : (outer ++ middle :: inner)[index]? = some (.mapList count)) :
    index = outer.length := by
  rcases Nat.lt_trichotomy index outer.length with early | same | late
  · rw [List.getElem?_append_left early] at found
    cases before _ (List.mem_of_getElem? found)
  · exact same
  · obtain ⟨beyond, rfl⟩ := Nat.exists_eq_add_of_lt late
    rw [List.getElem?_append_right (by omega), show
      outer.length + beyond + 1 - outer.length = beyond + 1 by omega,
      List.getElem?_cons_succ] at found
    cases after _ (List.mem_of_getElem? found)

theorem countP_isMapList (framed : filtering.Framed frames list) :
    frames.countP Frame.isMapList ≤ 1 := by
  have none :
      ∀ {frames : List Frame}, (∀ frame ∈ frames, frame.isMapList = false) →
        frames.countP Frame.isMapList = 0 := fun unmapped =>
    List.countP_eq_zero.mpr fun frame member => by simp [unmapped frame member]
  cases framed with
  | single keeps _ =>
    exact (none (isMapList_keeps keeps)).le.trans (Nat.zero_le 1)
  | list before keeps _ =>
      rw [List.countP_append, none before, List.countP_cons,
        none (isMapList_keeps keeps)]
      exact Nat.le_refl 1

/-- The list is at the frame that maps one. -/
theorem list_iff (framed : filtering.Framed frames list) (index : Nat) :
    list = some index ↔ ∃ count, frames[index]? = some (.mapList count) := by
  cases framed with
  | single keeps _ =>
      constructor
      · intro listed
        cases listed
      · rintro ⟨count, found⟩
        cases isMapList_keeps keeps _ (List.mem_of_getElem? found)
  | list before keeps _ =>
      constructor
      · intro listed
        obtain rfl := Option.some.inj listed
        rw [List.getElem?_append_right (Nat.le_refl _), Nat.sub_self]
        exact ⟨_, rfl⟩
      · rintro ⟨count, found⟩
        rw [index_of_mapList before (isMapList_keeps keeps) found]

/-- The frames around and inside of the one that maps the list. -/
theorem parts_of_list (framed : filtering.Framed frames list) {index : Nat}
    (listed : list = some index) :
    ∃ filters outer inner, filtering = .list filters ∧ index = outer.length ∧
      frames =
        outer ++ .mapList (filters.countP ElementFilter.onList) :: inner ∧
      inner.filterMap Frame.filter? = filters.map ElementFilter.typeName := by
  cases framed with
  | single => cases listed
  | @list outer inner filters _ _ same =>
      obtain rfl := Option.some.inj listed
      exact ⟨filters, outer, inner, rfl, rfl, rfl, same⟩

end Filtering.Framed

/-- A chain has at most one frame that maps a list, at the position the chain
has for it. The frame counts the filters on the list, all of which have their
frames inside of it, and a dictionary is built in place of it. -/
structure Chain.MapsOneList (chain : Chain) (filters : List ElementFilter) :
    Prop where
  once : chain.frames.countP Frame.isMapList ≤ 1
  list : ∀ index, chain.list = some index ↔
    ∃ count, chain.frames[index]? = some (.mapList count)
  counted : ∀ index, chain.list = some index →
    chain.frames[index]? =
      some (.mapList (filters.countP ElementFilter.onList)) ∧
      (chain.frames.drop (index + 1)).filterMap Frame.filter? =
        filters.map ElementFilter.typeName
  dictionary : ∀ entry, chain.position = .dictionary entry →
    ∃ outer count inner, chain.frames = outer ++ .mapList count :: inner ∧
      chain.list = some outer.length ∧
      chain.finish =
        .ok (fillFrames outer (.toDictionary (fillFrames inner entry)))

theorem Chain.finish_dictionary {chain : Chain} {outer inner : List Frame}
    {frame : Frame} {entry : Program}
    (frames : chain.frames = outer ++ frame :: inner)
    (listed : chain.list = some outer.length)
    (single : chain.enforceSingle = false)
    (ends : chain.position = .dictionary entry) :
    chain.finish =
      .ok (fillFrames outer (.toDictionary (fillFrames inner entry))) := by
  have dropped : (outer ++ frame :: inner).drop (outer.length + 1) = inner := by
    simp
  simp [finish, ends, listed, frames, single, dropped]

theorem Chain.Lists.mapsOneList {chain : Chain} {steps rest : List Step}
    (lists : chain.Lists steps rest) :
    chain.MapsOneList (Pipeline.elementFilters steps) where
  once := lists.framed.countP_isMapList
  list := lists.framed.list_iff
  counted index listed := by
    obtain ⟨filters, outer, inner, leads, rfl, frames, types⟩ :=
      lists.framed.parts_of_list listed
    rw [Pipeline.elementFilters, leads, frames]
    exact ⟨by simp, by simpa using types⟩
  dictionary entry ends := by
    obtain ⟨isListed, single⟩ := lists.dictionary (by rw [ends]; rfl)
    obtain ⟨index, listed⟩ := Option.isSome_iff_exists.mp isListed
    obtain ⟨filters, outer, inner, _, rfl, frames, _⟩ :=
      lists.framed.parts_of_list listed
    exact ⟨outer, _, inner, frames, listed,
      chain.finish_dictionary frames listed single ends⟩

/-- At every stage of a compilation the list of the chain is at a frame that
maps it, after the frames around the pipeline.  A pipeline that is compiled on
its own has one such frame at most, which holds its filters. -/
theorem passes_mapsOneList {whole : Pipeline} {stage : Compile.Stage}
    (passes : Compile.Passes whole stage) :
    stage.frames <+: stage.chain.frames ∧
      (∀ index, stage.chain.list = some index → stage.frames.length ≤ index ∧
        ∃ count, stage.chain.frames[index]? = some (.mapList count)) ∧
      (stage.frames = [] →
        stage.chain.MapsOneList (Pipeline.elementFilters stage.done)) := by
  obtain ⟨own, same, _, _, lists⟩ :=
    (passes.stands start_lists walksStep_lists).own
  rw [same]
  refine ⟨List.prefix_append _ _, fun index listed => ?_, fun alone => ?_⟩
  · obtain ⟨position, found, rfl⟩ := Option.map_eq_some_iff.mp listed
    obtain ⟨count, mapped⟩ := (lists.framed.list_iff position).mp found
    refine ⟨Nat.le_add_right _ _, count, ?_⟩
    rw [Chain.under, List.getElem?_append_right (Nat.le_add_right _ _),
      Nat.add_sub_cancel_left]
    exact mapped
  · rw [alone, own.under_nil]
    exact lists.mapsOneList

namespace Sample

/-- The users that own items by their names. -/
def usersByName : Pipeline :=
  (owners.filter "User").toDictionary "u"
    ((Pipeline.parameter "u").property name)
    ((Pipeline.parameter "u").property name)

end Sample

/-- The list of the items is mapped around their owners, and counts the filter
on it. -/
theorem usersByName_mapsOneList :
    ∃ stage, Compile.Passes Sample.usersByName stage ∧ stage.frames = [] ∧
      stage.rest = [] ∧
      stage.chain.frames =
        [.field "items", .mapList 1, .bind 1, .field "owner", .optional,
        .narrow "User" .filter] ∧
      stage.chain.position.isDictionary = true ∧ stage.chain.list = some 1 ∧
      stage.chain.MapsOneList [⟨"User", true⟩] := by
  have evaluated :
      (Compile.walkPipeline [Compile.rootScope .query] [] Sample.usersByName
        CompileState.initial).map (fun (chain, _) =>
        (chain.frames, chain.position.isDictionary, chain.list)) =
          .ok ([.field "items", .mapList 1, .bind 1, .field "owner", .optional,
            .narrow "User" .filter], true, some 1) := by
    cbv
  obtain ⟨⟨last, document⟩, walking, same⟩ := Evaluate.map_eq_ok.mp evaluated
  obtain ⟨sameFrames, kind, list⟩ := by simpa only [Prod.mk.injEq] using same
  obtain ⟨stage, started, frames, done, rest, walking⟩ :=
    Compile.Stage.exists_start walking
  have passes := (Compile.Passes.whole rfl started).walked walking
  have filters :
      Pipeline.elementFilters (stage.done ++ stage.rest) =
        [⟨"User", true⟩] := by
    rw [done, rest]
    cbv
  refine ⟨_, passes, frames, rfl, sameFrames, kind, list, ?_⟩
  exact filters ▸ (passes_mapsOneList passes).2.2 frames

end GraphPipeline
