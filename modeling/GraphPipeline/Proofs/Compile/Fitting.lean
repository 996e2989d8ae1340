import GraphPipeline.Proofs.Fitting

/-!
# Walks give fitting programs

While a pipeline is walked, the frames of its chain lead from the object of the
innermost scope to the current position: a program that fits at the position
still fits when the frames are filled with it.  Projections may bind the element
they are applied to, so the program must fit whatever is bound deeper than the
scopes of the pipeline.
-/

namespace GraphPipeline

/-- The objects of a scope. -/
def Scope.place (scope : Scope) : Place :=
  { set := scope.object.set, path := scope.path, repeated := scope.repeated }

/-- Every scope is bound at its depth. -/
def Scopes.Bound : Scopes → Places → Prop
  | [], _ => True
  | scope :: outer, places =>
      places outer.length = some scope.place ∧ Scopes.Bound outer places

namespace Scopes

/-- Two assignments of places that agree on the depths of some scopes. -/
def Agree (scopes : Scopes) (places other : Places) : Prop :=
  ∀ depth, depth < scopes.length → other depth = places depth

theorem Agree.outer {scope : Scope} {scopes : Scopes} {places other : Places}
    (agree : Agree (scope :: scopes) places other) :
    Agree scopes places other :=
  fun depth below => agree depth (Nat.lt_succ_of_lt below)

theorem Bound.of_agree {scopes : Scopes} {places other : Places}
    (bound : scopes.Bound places) (agree : scopes.Agree places other) :
    scopes.Bound other := by
  induction scopes with
  | nil => trivial
  | cons scope outer induction =>
      refine ⟨?_, induction bound.2 agree.outer⟩
      rw [agree outer.length (Nat.lt_succ_self _)]
      exact bound.1

theorem Bound.inside {scope : Scope} {scopes : Scopes} {places : Places}
    (bound : scopes.Bound places) :
    Bound (scope :: scopes)
      (Function.update places scopes.length (some scope.place)) := by
  refine ⟨Function.update_self .., bound.of_agree fun depth below => ?_⟩
  rw [Function.update_of_ne (Nat.ne_of_lt below)]

/-- A source stands for the place that is bound at its depth. -/
theorem Bound.resolve {scopes : Scopes} {places : Places}
    (bound : scopes.Bound places)
    {source : Source} {depth : Nat} {scope : Scope}
    (found : scopes.resolve? source = some (depth, scope)) :
    depth < scopes.length ∧ places depth = some scope.place := by
  induction scopes with
  | nil => simp [resolve?] at found
  | cons head outer induction =>
      have later : resolve? outer source = some (depth, scope) →
          depth < (head :: outer).length ∧ places depth = some scope.place := by
        intro found
        obtain ⟨below, same⟩ := induction bound.2 found
        exact ⟨Nat.lt_succ_of_lt below, same⟩
      cases source with
      | root kind =>
          cases outer with
          | nil =>
              simp only [resolve?, Option.some.injEq, Prod.mk.injEq] at found
              obtain ⟨rfl, rfl⟩ := found
              exact ⟨Nat.zero_lt_one, bound.1⟩
          | cons next outer => exact later (by simpa [resolve?] using found)
      | parameter parameter =>
          by_cases same : head.parameter = some parameter
          · simp only [resolve?, same, if_true, Option.some.injEq,
              Prod.mk.injEq] at found
            obtain ⟨rfl, rfl⟩ := found
            exact ⟨Nat.lt_succ_self _, bound.1⟩
          · exact later (by simpa [resolve?, same] using found)

end Scopes

/-! ### Frames -/

/-- Whether the results stay entries of dictionaries. -/
def Frame.keepsEntry : Frame → Bool
  | .mapList _ => false
  | .subquerySink _ _ => false
  | _ => true

/-- The frames that guard the values of a type against null. -/
def guardFrames (type : TypeRef) : List Frame :=
  if type.isNullable then [.optional] else []

theorem fillFrames_append (outer inner : List Frame) (program : Program) :
    fillFrames (outer ++ inner) program =
      fillFrames outer (fillFrames inner program) := by
  simp [fillFrames]

theorem fillFrames_field (key : String) (type : TypeRef) (program : Program) :
    fillFrames (.field key :: guardFrames type) program =
      .field key (program.guarded type) := by
  unfold guardFrames Program.guarded
  split <;> rfl

theorem fillFrames_guardFrames (type : TypeRef) (program : Program) :
    fillFrames (guardFrames type) program = program.guarded type := by
  unfold guardFrames Program.guarded
  split <;> rfl

theorem keepsEntry_guardFrames (type : TypeRef) :
    ∀ frame ∈ guardFrames type, frame.keepsEntry = true := by
  unfold guardFrames
  split <;> simp [Frame.keepsEntry]

theorem isEntry_bindIfRead {depth : Nat} {program : Program}
    (entry : program.isEntry = true) :
    (program.bindIfRead depth).isEntry = true := by
  unfold Program.bindIfRead
  split
  · exact entry
  · exact entry

theorem isEntry_fillFrames {frames : List Frame} {program : Program}
    (keeps : ∀ frame ∈ frames, frame.keepsEntry = true)
    (entry : program.isEntry = true) :
    (fillFrames frames program).isEntry = true := by
  induction frames with
  | nil => exact entry
  | cons frame frames induction =>
      have inside := induction fun other member =>
        keeps other (List.mem_cons_of_mem _ member)
      have kept := keeps frame List.mem_cons_self
      cases frame with
      | field key => exact inside
      | optional => exact inside
      | narrow typeName mode => exact inside
      | parameter depth => exact inside
      | bind depth => exact isEntry_bindIfRead inside
      | mapList filters => simp [Frame.keepsEntry] at kept
      | subquerySink id keys => simp [Frame.keepsEntry] at kept

/-! ### Passages -/

section passages

variable (document : CompileState) (isOpen : List String → Prop)
  (scopes : Scopes)

/-- A context leads from one place to another: it makes a program that fits at
the second place fit at the first. -/
def Leads (start place : Place) (accepts : Program → Prop)
    (context : Program → Program) : Prop :=
  ∀ places inner, scopes.Bound places → accepts inner →
    (∀ other, scopes.Agree places other →
      Fits document isOpen other (.object place) inner) →
      Fits document isOpen places (.object start) (context inner)

/-- The frames of a chain lead to a place.  If they map a list, its elements may
be counted out by any number of filters, or become the entries of a
dictionary. -/
inductive Passage (start place : Place) : List Frame → Option Nat → Prop where
  | plain {frames : List Frame} :
      (∀ frame ∈ frames, frame.keepsEntry = true) →
      Leads document isOpen scopes start place (fun _ => True)
        (fillFrames frames) →
      Passage start place frames none
  | listed {outer inner : List Frame} {filters : Nat} :
      (∀ frame ∈ inner, frame.keepsEntry = true) →
      (∀ filters,
        Leads document isOpen scopes start place (fun _ => True) fun program =>
        fillFrames outer (.mapList filters (fillFrames inner program))) →
      Leads document isOpen scopes start place
        (fun entry => entry.isEntry = true)
        (fun entry =>
          fillFrames outer (.toDictionary (fillFrames inner entry))) →
      Passage start place (outer ++ .mapList filters :: inner)
        (some outer.length)

end passages

variable {document : CompileState} {isOpen : List String → Prop}
  {scopes : Scopes} {start place next : Place} {frames : List Frame}
  {list : Option Nat}

theorem Leads.extend {accepts : Program → Prop}
    {context wrap : Program → Program}
    (leads : Leads document isOpen scopes start place accepts context)
    (accepted : ∀ {inner}, accepts inner → accepts (wrap inner))
    (step : ∀ {places inner}, Fits document isOpen places (.object next) inner →
      Fits document isOpen places (.object place) (wrap inner)) :
    Leads document isOpen scopes start next accepts
      fun inner => context (wrap inner) :=
  fun _ _ bound holds fits =>
    leads _ _ bound (accepted holds) fun other agree => step (fits other agree)

theorem Leads.restrict {accepts accepted : Program → Prop}
    {context : Program → Program}
    (leads : Leads document isOpen scopes start place accepts context)
    (implies : ∀ inner, accepted inner → accepts inner) :
    Leads document isOpen scopes start place accepted context :=
  fun _ _ bound holds fits => leads _ _ bound (implies _ holds) fits

theorem Leads.congr {accepts : Program → Prop}
    {context other : Program → Program}
    (leads : Leads document isOpen scopes start place accepts context)
    (same : ∀ inner, other inner = context inner) :
    Leads document isOpen scopes start place accepts other := by
  intro places inner bound holds fits
  rw [same]
  exact leads _ _ bound holds fits

theorem Passage.leads
    (passage : Passage document isOpen scopes start place frames list) :
    Leads document isOpen scopes start place (fun _ => True)
      (fillFrames frames) := by
  cases passage with
  | plain _ leads => exact leads
  | @listed outer inner filters _ leads _ =>
      intro places program bound _ fits
      rw [fillFrames_append]
      exact leads filters _ _ bound trivial fits

/-- Frames more lead to the place inside of them. -/
theorem Passage.append {more : List Frame}
    (passage : Passage document isOpen scopes start place frames list)
    (keeps : ∀ frame ∈ more, frame.keepsEntry = true)
    (step : ∀ {places inner}, Fits document isOpen places (.object next) inner →
      Fits document isOpen places (.object place) (fillFrames more inner)) :
    Passage document isOpen scopes start next (frames ++ more) list := by
  cases passage with
  | plain kept leads =>
      refine .plain ?_ ?_
      · intro other member
        exact (List.mem_append.mp member).elim (kept other) (keeps other)
      · intro places inner bound _ fits
        rw [fillFrames_append]
        exact leads.extend (fun _ => trivial) step _ _ bound trivial fits
  | @listed outer inner filters kept leads leadsEntry =>
      rw [List.append_assoc, List.cons_append]
      refine .listed ?_ ?_ ?_
      · intro other member
        exact (List.mem_append.mp member).elim (kept other) (keeps other)
      · intro filters places program bound _ fits
        simp only [fillFrames_append]
        exact (leads filters).extend (fun _ => trivial) step _ _ bound trivial
          fits
      · intro places entry bound isEntry fits
        simp only [fillFrames_append]
        exact leadsEntry.extend
          (fun isEntry => isEntry_fillFrames keeps isEntry) step
          _ _ bound isEntry fits

theorem modify_at_length {α : Type} (change : α → α) (outer inner : List α)
    (value : α) :
    (outer ++ value :: inner).modify outer.length change =
      outer ++ change value :: inner := by
  induction outer with
  | nil => rfl
  | cons head outer induction => simp [induction]

/-- A filter more is counted on the list a passage maps. -/
theorem Passage.countFilter {chain : Chain} {index : Nat}
    (listed : chain.list = some index)
    (passage :
      Passage document isOpen scopes start place chain.frames chain.list) :
    Passage document isOpen scopes start place (chain.countFilter index).frames
      (chain.countFilter index).list := by
  obtain ⟨frames, position, list, path, repeated, pendingPage, terminal,
    enforceSingle⟩ := chain
  simp only [Chain.countFilter] at *
  subst list
  cases passage with
  | listed kept leads leadsEntry =>
      rw [modify_at_length]
      exact .listed kept leads leadsEntry

/-- The elements of a list become the place of the steps that follow. -/
theorem Passage.mapList {outer : List Frame} {element : TypeRef} {items : Place}
    {context wrap : Program → Program} (single : element.element? = none)
    (leads : Leads document isOpen scopes start place (fun _ => True) context)
    (step :
      ∀ {places inner},
        Fits document isOpen places (.items element items) inner →
        Fits document isOpen places (.object place) (wrap inner))
    (filled : ∀ inner, fillFrames outer inner = context (wrap inner)) :
    Passage document isOpen scopes start items.inList
      (outer ++ .mapList 0 :: guardFrames element) (some outer.length) := by
  refine .listed (keepsEntry_guardFrames element) ?_ ?_
  · intro filters places program bound _ fits
    simp only [filled, fillFrames_guardFrames]
    exact leads _ _ bound trivial
      fun other agree => step (.mapList single (fits other agree))
  · intro places entry bound isEntry fits
    simp only [filled, fillFrames_guardFrames]
    exact leads _ _ bound trivial fun other agree =>
      step (.toDictionary single isEntry (fits other agree))

/-- The list a passage maps can be made into a dictionary instead. -/
theorem Passage.dictionary {index : Nat} {places : Places} {entry : Program}
    (passage : Passage document isOpen scopes start place frames (some index))
    (bound : scopes.Bound places) (isEntry : entry.isEntry = true)
    (fits : ∀ other, scopes.Agree places other →
      Fits document isOpen other (.object place) entry) :
    Fits document isOpen places (.object start)
      (fillFrames (frames.take index)
        (.toDictionary (fillFrames (frames.drop (index + 1)) entry))) := by
  cases passage with
  | listed kept leads leadsEntry =>
      simpa using leadsEntry _ _ bound isEntry fits

/-! ### Chains -/

namespace Chain

/-- The objects of a position of the chain. -/
def placeOf (chain : Chain) (object : ObjectPosition) : Place :=
  { set := object.set, path := chain.path, repeated := chain.repeated }

/-- A chain at the objects of a place.  A connection whose pages are asked for
next is not read field by field. -/
structure At (document : CompileState) (isOpen : List String → Prop)
    (chain : Chain) (object : ObjectPosition) : Prop where
  reached : document.selections.ReachesSet chain.path object.set
  readable : chain.pendingPage = none → (chain.placeOf object).Readable isOpen
  pending : ∀ {page}, chain.pendingPage = some page →
    chain.repeated = false ∧
      document.selections.CursorAt chain.path page.variableName

end Chain

/-- The invariant of a walk: the frames lead to the objects of the current
position, and a value that ends a pipeline fits at its start. -/
def Chain.Stands (document : CompileState) (isOpen : List String → Prop)
    (scopes : Scopes) (start : Place) (chain : Chain) : Prop :=
  match chain.position with
  | .object object =>
      Passage document isOpen scopes start (chain.placeOf object) chain.frames
        chain.list ∧
        chain.At document isOpen object
  | .value program _ => ∀ places, scopes.Bound places →
      Fits document isOpen places (.object start)
        (fillFrames chain.frames program)
  | .dictionary entry => ∃ index, chain.list = some index ∧
      ∀ places, scopes.Bound places →
        Fits document isOpen places (.object start)
          (fillFrames (chain.frames.take index)
            (.toDictionary (fillFrames (chain.frames.drop (index + 1)) entry)))

theorem Chain.Stands.object {chain : Chain} {object : ObjectPosition}
    (stands : chain.Stands document isOpen scopes start)
    (atObject : chain.position = .object object) :
    Passage document isOpen scopes start (chain.placeOf object) chain.frames
      chain.list ∧
      chain.At document isOpen object := by
  unfold Chain.Stands at stands
  rwa [atObject] at stands

/-- Every scope is selected where it says. -/
def Scopes.Stand (document : CompileState) (isOpen : List String → Prop)
    (scopes : Scopes) : Prop :=
  ∀ scope ∈ scopes, document.selections.ReachesSet scope.path scope.object.set ∧
    scope.place.Readable isOpen

/-- The program of a finished chain fits at the place the chain started from. -/
theorem Chain.Stands.finish {chain : Chain} {program : Program}
    (stands : chain.Stands document isOpen scopes start)
    (finished : chain.finish = .ok program) :
    ∀ places, scopes.Bound places →
      Fits document isOpen places (.object start) program := by
  intro places bound
  have ended :
      ∀ {filled : Program}, Fits document isOpen places (.object start) filled →
        Fits document isOpen places (.object start)
          (if chain.enforceSingle then .enforceSingle filled else filled) := by
    intro filled fits
    split
    · exact .enforceSingle fits
    · exact fits
  unfold Chain.Stands at stands
  unfold Chain.finish at finished
  cases position : chain.position with
  | object object => simp [position] at finished
  | value inner isList =>
      simp only [position, Except.ok.injEq] at finished stands
      rw [← finished]
      exact ended (stands places bound)
  | dictionary entry =>
      simp only [position, Except.ok.injEq] at finished stands
      obtain ⟨index, list, fits⟩ := stands
      rw [← finished]
      simp only [list, Option.getD_some]
      exact ended (fits places bound)

/-! ### Steps -/

section steps

variable {named : String → Prop}
  {plain : FieldDefinition → List Argument → Prop}

/-- Fields that are selected at a readable path without a cursor lead to
readable paths. -/
def Opens (document : CompileState) (isOpen : List String → Prop)
    (plain : FieldDefinition → List Argument → Prop) : Prop :=
  ∀ {field arguments path set selected}, plain field arguments →
    document.selections.ReachesSet path set →
      document.selections.Holds set field (Argument.written arguments)
        selected →
        isOpen path → isOpen (path ++ [selected.key])

theorem element?_eq_none_of_isList {type : TypeRef}
    (noList : type.isList = false) :
    type.element? = none := by
  simp [TypeRef.element?, Wrapping.element?_eq_none.mpr noList]

theorem guardNull_eq (chain : Chain) (type : TypeRef) :
    chain.guardNull type =
      { chain with frames := chain.frames ++ guardFrames type } := by
  unfold Chain.guardNull guardFrames
  split
  · rfl
  · simp

theorem mapList_eq (chain : Chain) (element : TypeRef) :
    chain.mapList element =
      { chain with
        frames := chain.frames ++ .mapList 0 :: guardFrames element
        list := some chain.frames.length
        repeated := true } := by
  unfold Chain.mapList
  simp [guardNull_eq, Chain.push]

/-- The frames of a selected field lead to the objects below it. -/
theorem advance_stands {chain last : Chain} {object : ObjectPosition}
    {field : FieldDefinition} {selected : SelectedField}
    (holds : ∃ record ∈ (document.selections.set object.set).fields,
      record.type = field.type ∧ record.selected = selected)
    (passage :
      Passage document isOpen scopes start (chain.placeOf object) chain.frames
        chain.list)
    (reached : document.selections.ReachesSet chain.path object.set)
    (readable : (chain.placeOf object).Readable isOpen)
    (opened : chain.pendingPage = none → chain.repeated = false →
      isOpen (chain.path ++ [selected.key]))
    (pending :
      ∀ {page}, chain.pendingPage = some page → field.type.element? = none ∧
        chain.repeated = false ∧
          document.selections.CursorAt (chain.path ++ [selected.key])
            page.variableName)
    (advanced : Compile.advance chain object field selected = .ok last) :
    last.Stands document isOpen scopes start := by
  obtain ⟨record, member, sameType, rfl⟩ := holds
  unfold Compile.advance at advanced
  cases child : record.child with
  | none =>
      simp only [FieldRecord.selected, child, Except.ok.injEq] at advanced
      subst last
      intro places bound
      rw [← sameType]
      exact passage.leads _ _ bound trivial
        fun _ _ => .readScalar member child readable
  | some set =>
      have reachedBelow := reached.field member child
      have fitsField : ∀ {places inner},
          Fits document isOpen places
            (Extent.of field.type ((chain.placeOf object).below record.key set))
              inner →
          Fits document isOpen places (.object (chain.placeOf object))
            (fillFrames (.field record.key :: guardFrames field.type)
              inner) := by
        intro places inner fits
        rw [fillFrames_field, ← sameType]
        rw [← sameType] at fits
        exact .field member child readable fits
      cases elementOf : field.type.element? with
      | none =>
          simp only [FieldRecord.selected, child, elementOf, guardNull_eq,
            Chain.push, List.append_assoc, List.singleton_append,
            Except.ok.injEq] at advanced
          subst last
          refine ⟨?_, reachedBelow, ?_, ?_⟩
          · refine passage.append ?_ ?_
            · intro frame inside
              rcases List.mem_cons.mp inside with rfl | guard
              · rfl
              · exact keepsEntry_guardFrames _ frame guard
            · simp only [Extent.of, elementOf] at fitsField
              exact fitsField
          · intro noPage
            cases repeated : chain.repeated with
            | true => exact Or.inl rfl
            | false => exact Or.inr (opened noPage repeated)
          · intro page waiting
            exact (pending waiting).2
      | some element =>
          simp only [FieldRecord.selected, child, elementOf, guardNull_eq,
            mapList_eq, Chain.push, List.append_assoc,
            List.singleton_append] at advanced
          split at advanced
          · cases advanced
          · rename_i single
            obtain rfl := Except.ok.inj advanced
            refine ⟨?_, reachedBelow, fun _ => Or.inl rfl, ?_⟩
            · simp only [Extent.of, elementOf] at fitsField
              have mapped := Passage.mapList
                (element?_eq_none_of_isList
                  (Bool.eq_false_of_not_eq_true single))
                passage.leads fitsField fun inner => fillFrames_append _ _ _
              rwa [List.append_assoc] at mapped
            · intro page waiting
              have noElement := (pending waiting).1
              rw [elementOf] at noElement
              cases noElement

theorem selectsField_stands {chain last : Chain} {field : FieldDefinition}
    {arguments : List Argument} {paginate : Bool}
    (opens : Opens document isOpen plain) (isPlain : plain field arguments)
    (stands : chain.Stands document isOpen scopes start)
    (noPage : chain.pendingPage = none)
    (selects :
      Compile.SelectsField document chain field arguments paginate last) :
    last.Stands document isOpen scopes start ∧
      (last.pendingPage.isSome = true → paginate = true) := by
  cases selects with
  | @plain object selected _ atObject noList holds advanced =>
      obtain ⟨passage, standing⟩ := stands.object atObject
      have readable := standing.readable noPage
      obtain ⟨record, member, signed, sameType, same⟩ := holds
      refine ⟨advance_stands ⟨record, member, sameType, same⟩ passage
          standing.reached readable ?_ ?_ advanced, ?_⟩
      · intro _ once
        rcases readable with repeated | isOpen
        · rw [Chain.placeOf, once] at repeated
          cases repeated
        · exact opens isPlain standing.reached
            ⟨record, member, signed, sameType, same⟩ isOpen
      · intro page waiting
        rw [noPage] at waiting
        cases waiting
      · intro waiting
        rw [Compile.advance_pendingPage advanced, noPage] at waiting
        cases waiting
  | @paged object selected _ written page atObject noList once connection holds
      advanced =>
      obtain ⟨passage, standing⟩ := stands.object atObject
      have readable := standing.readable noPage
      obtain ⟨record, member, signed, sameType, rfl⟩ := holds
      have noElement : field.type.element? = none := by
        simp only [FieldDefinition.isConnection, Bool.and_eq_true,
          Bool.not_eq_true'] at connection
        exact element?_eq_none_of_isList connection.1.2
      refine ⟨advance_stands ⟨record, member, sameType, rfl⟩ ?_ ?_ ?_ ?_ ?_
          advanced, fun _ => rfl⟩
      · exact passage
      · exact standing.reached
      · exact readable
      · intro missing
        cases missing
      · intro waiting same
        obtain rfl := Option.some.inj same
        exact ⟨noElement, once, chain.path, object.set, record, field.name,
          written, standing.reached, member, rfl, signed⟩

theorem selectsPages_stands {chain last : Chain} {nodes : FieldDefinition}
    (stands : chain.Stands document isOpen scopes start)
    (selects : Compile.SelectsPages document chain nodes last) :
    last.Stands document isOpen scopes start := by
  cases selects with
  | @mk page connection element pageInfo hasNextPage endCursor selected info set
      id waiting atObject nodeType holdsInfo infoChild holdsNext holdsCursor
      holdsNodes child found =>
      obtain ⟨passage, standing⟩ := stands.object atObject
      obtain ⟨once, cursor⟩ := standing.pending waiting
      obtain ⟨infoRecord, infoMember, _, infoType, rfl⟩ := holdsInfo
      obtain ⟨nextRecord, nextMember, _, nextType, rfl⟩ := holdsNext
      obtain ⟨cursorRecord, cursorMember, _, cursorType, rfl⟩ := holdsCursor
      obtain ⟨nodesRecord, nodesMember, _, nodesType, rfl⟩ := holdsNodes
      have elementOf :
          nodes.type.element? = some element ∧ element.isList = false := by
        unfold Compile.nodeType? at nodeType
        obtain ⟨known, single⟩ := Option.filter_eq_some_iff.mp nodeType
        simp only [Bool.and_eq_true, Bool.not_eq_true'] at single
        exact ⟨known, single.2⟩
      have fitsSink : ∀ {places inner},
          Fits document isOpen places
            (.items element
              ((chain.placeOf connection).below nodesRecord.key set).inList)
            inner →
          Fits document isOpen places (.object (chain.placeOf connection))
            (.subquerySink id
              ⟨nodesRecord.key, infoRecord.key, nextRecord.key,
               cursorRecord.key⟩ inner) := by
        intro places inner fits
        exact .subquerySink found rfl once cursor standing.reached infoMember
          infoType infoChild nextMember nextType cursorMember cursorType
          nodesMember child (by rw [nodesType]; exact elementOf.1) rfl fits
      refine ⟨?_, ?_⟩
      · simp only [Chain.throughPages, mapList_eq, Chain.push]
        have mapped : Passage document isOpen scopes start
            ((chain.placeOf connection).below nodesRecord.key set).inList.inList
              _ _ :=
          Passage.mapList (element?_eq_none_of_isList elementOf.2) passage.leads
            fitsSink fun inner =>
            fillFrames_append chain.frames
              [.subquerySink id
                ⟨nodesRecord.key, infoRecord.key, nextRecord.key,
                 cursorRecord.key⟩] inner
        exact mapped
      · simp only [Chain.throughPages, mapList_eq, Chain.push]
        refine ⟨standing.reached.field nodesMember child, fun _ => Or.inl rfl,
          ?_⟩
        intro page missing
        cases missing

theorem narrows_stands {chain last : Chain} {typeName : String}
    {mode : NarrowingMode}
    (stands : chain.Stands document isOpen scopes start)
    (noPage : chain.pendingPage = none)
    (narrows : Compile.Narrows document chain typeName mode last) :
    last.Stands document isOpen scopes start ∧ last.pendingPage = none := by
  cases narrows with
  | @mk object set atObject polymorphic absentOk found required =>
      obtain ⟨passage, standing⟩ := stands.object atObject
      have readable := standing.readable noPage
      have counted : Passage document isOpen scopes start (chain.placeOf object)
          (chain.counted mode).frames (chain.counted mode).list := by
        unfold Chain.counted
        split
        · rename_i listed
          exact passage.countFilter listed
        · exact passage
      have samePath : (chain.counted mode).path = chain.path ∧
          (chain.counted mode).repeated = chain.repeated ∧
            (chain.counted mode).pendingPage = chain.pendingPage := by
        unfold Chain.counted
        split <;> exact ⟨rfl, rfl, rfl⟩
      have inside :
          Passage document isOpen scopes start { chain.placeOf object with set }
            ((chain.counted mode).frames ++ [.narrow typeName mode])
            (chain.counted mode).list := by
        refine counted.append ?_
          fun fits => .narrow found required readable fits
        intro frame member
        obtain rfl := List.mem_singleton.mp member
        rfl
      refine ⟨⟨?_, ?_⟩, ?_⟩
      · simpa only [Chain.placeOf, Chain.narrowedTo, Chain.push, samePath]
          using inside
      · refine ⟨?_, ?_, ?_⟩
        · simpa only [Chain.narrowedTo, Chain.push, samePath] using
            standing.reached.fragment found
        · intro _
          simpa only [Place.Readable, Chain.placeOf, Chain.narrowedTo,
            Chain.push, samePath] using readable
        · intro page waiting
          simp only [Chain.narrowedTo, Chain.push, samePath, noPage] at waiting
          cases waiting
      · simp only [Chain.narrowedTo, Chain.push, samePath, noPage]

/-- A projection binds its element where the inner steps need it. -/
theorem Leads.bind {scope : Scope} {accepts accepted : Program → Prop}
    {context wrap : Program → Program}
    (leads : Leads document isOpen scopes start scope.place accepted context)
    (inside :
      Leads document isOpen (scope :: scopes) scope.place next accepts wrap)
    (kept :
      ∀ {inner},
        accepts inner → accepted ((wrap inner).bindIfRead scopes.length)) :
    Leads document isOpen scopes start next accepts
      fun inner => context ((wrap inner).bindIfRead scopes.length) := by
  intro places inner bound holds fits
  refine leads _ _ bound (kept holds) fun other agree => Fits.bindIfRead ?_
  refine inside _ _ (bound.of_agree agree).inside holds
    fun deeper agreeDeeper => ?_
  refine fits deeper fun depth below => ?_
  rw [agreeDeeper depth (Nat.lt_succ_of_lt below),
    Function.update_of_ne (Nat.ne_of_lt below)]
  exact agree depth below

/-- A passage inside of a projection continues the passage to the projected
element. -/
theorem Passage.bind {scope : Scope} {inner : List Frame}
    {innerList : Option Nat}
    (passage : Passage document isOpen scopes start scope.place frames list)
    (inside :
      Passage document isOpen (scope :: scopes) scope.place next inner
        innerList)
    (oneList : list = none ∨ innerList = none) :
    Passage document isOpen scopes start next
      (frames ++ .bind scopes.length :: inner)
      (list.or (innerList.map (frames.length + 1 + ·))) := by
  have filled : ∀ (before after : List Frame) (program : Program),
      fillFrames (before ++ .bind scopes.length :: after) program =
        fillFrames before
          ((fillFrames after program).bindIfRead scopes.length) := by
    intro before after program
    rw [fillFrames_append]
    rfl
  have keeps : ∀ {before after : List Frame},
      (∀ frame ∈ before, frame.keepsEntry = true) →
      (∀ frame ∈ after, frame.keepsEntry = true) →
        ∀ frame ∈ before ++ .bind scopes.length :: after,
          frame.keepsEntry = true := by
    intro before after keptBefore keptAfter frame member
    rcases List.mem_append.mp member with early | late
    · exact keptBefore frame early
    · rcases List.mem_cons.mp late with rfl | later
      · rfl
      · exact keptAfter frame later
  cases passage with
  | plain kept leads =>
      cases inside with
      | plain innerKept innerLeads =>
          refine .plain (keeps kept innerKept) ?_
          exact (leads.bind innerLeads fun _ => trivial).congr (filled _ _)
      | @listed outer rest filters innerKept innerLeads innerEntry =>
          have regrouped : Passage document isOpen scopes start next
              ((frames ++ .bind scopes.length :: outer) ++ .mapList filters ::
                rest)
              (some (frames ++ .bind scopes.length :: outer).length) := by
            refine .listed innerKept ?_ ?_
            · intro filters
              exact (leads.bind (innerLeads filters)
                fun _ => trivial).congr fun _ =>
                filled _ _ _
            · exact (leads.bind innerEntry fun _ => trivial).congr
                fun _ => filled _ _ _
          simpa [Nat.add_assoc, Nat.add_comm 1] using regrouped
  | @listed outer rest filters kept leads leadsEntry =>
      cases inside with
      | plain innerKept innerLeads =>
          rw [List.append_assoc, List.cons_append]
          refine .listed (keeps kept innerKept) ?_ ?_
          · intro filters
            exact ((leads filters).bind innerLeads fun _ => trivial).congr
              fun _ => by
              rw [filled]
          · have leadsInner := innerLeads.restrict
              fun (entry : Program) (_ : entry.isEntry = true) => trivial
            exact (leadsEntry.bind leadsInner fun isEntry =>
              isEntry_bindIfRead
                (isEntry_fillFrames innerKept isEntry)).congr fun _ => by
                rw [filled]
      | listed innerKept innerLeads innerEntry =>
          rcases oneList with none | none <;> cases none

/-- The chain after a projection leads through the projected element. -/
theorem continued_stands {chain last : Chain} {object : ObjectPosition}
    {parameter : Parameter} (stands : chain.Stands document isOpen scopes start)
    (atObject : chain.position = .object object)
    (inside :
      last.Stands document isOpen (chain.scope parameter object :: scopes)
        (chain.placeOf object))
    (oneList : chain.list = none ∨ last.list = none) :
    (chain.continued scopes.length last).Stands document isOpen scopes
      start := by
  obtain ⟨passage, standing⟩ := stands.object atObject
  have samePlace :
      (chain.scope parameter object).place = chain.placeOf object := rfl
  have bound : ∀ {places inner}, scopes.Bound places →
      (∀ places, Scopes.Bound (chain.scope parameter object :: scopes) places →
        Fits document isOpen places (.object (chain.placeOf object)) inner) →
      Fits document isOpen places (.object start)
        (fillFrames chain.frames (inner.bindIfRead scopes.length)) := by
    intro places inner bound fits
    exact passage.leads _ _ bound trivial fun other agree =>
      (fits _ (bound.of_agree agree).inside).bindIfRead
  unfold Chain.Stands at inside ⊢
  simp only [Chain.continued, Chain.under, List.append_assoc,
    List.singleton_append]
  cases position : last.position with
  | object inner =>
      simp only [position] at inside ⊢
      obtain ⟨innerPassage, innerStanding⟩ := inside
      refine ⟨?_, innerStanding.reached, innerStanding.readable,
        innerStanding.pending⟩
      simpa [Chain.placeOf] using Passage.bind passage innerPassage oneList
  | value program isList =>
      simp only [position] at inside ⊢
      intro places isBound
      have filled := bound isBound inside
      rwa [fillFrames_append]
  | dictionary entry =>
      simp only [position] at inside ⊢
      obtain ⟨index, list, fits⟩ := inside
      have noList : chain.list = none :=
        oneList.resolve_right fun none => by rw [list] at none; cases none
      refine ⟨chain.frames.length + 1 + index, by simp [noList, list], ?_⟩
      intro places isBound
      have filled := bound isBound fits
      have before : (chain.frames ++ .bind scopes.length :: last.frames).take
          (chain.frames.length + 1 + index) =
            chain.frames ++ .bind scopes.length :: last.frames.take index := by
        rw [Nat.add_assoc, List.take_length_add_append, Nat.add_comm 1,
          List.take_succ_cons]
      have after : (chain.frames ++ .bind scopes.length :: last.frames).drop
          (chain.frames.length + 1 + index + 1) =
            last.frames.drop (index + 1) := by
        rw [Nat.add_assoc, Nat.add_assoc, List.drop_length_add_append,
          Nat.add_comm 1, List.drop_succ_cons]
      rw [before, after, fillFrames_append]
      exact filled

/-- Where a pipeline starts. -/
theorem start_stands {scope found : Scope} {outer : Scopes} {source : Source}
    {depth : Nat}
    (standing : Scopes.Stand document isOpen (scope :: outer))
    (resolved : Scopes.resolve? (scope :: outer) source = some (depth, found)) :
    (Chain.start [] (scope :: outer) depth found).Stands document isOpen
      (scope :: outer)
      scope.place := by
  obtain ⟨reached, readable⟩ := standing found (Scopes.mem_of_resolve? resolved)
  refine ⟨?_, reached, fun _ => readable, ?_⟩
  · unfold Chain.start
    split
    · refine .plain ?_ ?_
      · intro frame member
        obtain rfl := List.mem_singleton.mp member
        rfl
      · intro places inner bound _ fits
        exact .parameter (bound.resolve resolved).2 (fits places fun _ _ => rfl)
    · rename_i innermost
      refine .plain (fun frame member => by simp at member) ?_
      intro places inner bound _ fits
      obtain ⟨below, same⟩ := bound.resolve resolved
      have sameDepth : depth = outer.length := by
        simp only [Scopes.innermostDepth, List.length_cons,
          Nat.add_sub_cancel] at innermost below
        omega
      have samePlace : scope.place = found.place := by
        rw [sameDepth, bound.1] at same
        exact Option.some.inj same
      rw [samePlace]
      exact fits places fun _ _ => rfl
  · intro page waiting
    cases waiting

end steps

theorem endedBy_stands {chain : Chain}
    (stands : chain.Stands document isOpen scopes start) (step : Step) :
    (chain.endedBy step).Stands document isOpen scopes start := by
  unfold Chain.endedBy
  split
  · unfold Chain.Stands at stands ⊢
    cases position : chain.position with
    | object object =>
        simp only [position] at stands ⊢
        exact ⟨stands.1, stands.2.reached, stands.2.readable, stands.2.pending⟩
    | value program isList =>
        simp only [position] at stands ⊢
        exact stands
    | dictionary entry =>
        simp only [position] at stands ⊢
        exact stands
  · exact stands

theorem enforced_stands {chain : Chain}
    (stands : chain.Stands document isOpen scopes start)
    (enforceSingle : Bool) :
    ({ chain with enforceSingle } : Chain).Stands document isOpen scopes
      start := by
  unfold Chain.Stands at stands ⊢
  cases position : chain.position with
  | object object =>
      simp only [position] at stands ⊢
      exact ⟨stands.1, stands.2.reached, stands.2.readable, stands.2.pending⟩
  | value program isList =>
      simp only [position] at stands ⊢
      exact stands
  | dictionary entry =>
      simp only [position] at stands ⊢
      exact stands

theorem scope_stands {chain : Chain} {object : ObjectPosition}
    (parameter : Parameter) (standing : scopes.Stand document isOpen)
    (noPage : chain.pendingPage = none)
    (stands : chain.Stands document isOpen scopes start)
    (atObject : chain.position = .object object) :
    Scopes.Stand document isOpen (chain.scope parameter object :: scopes) := by
  obtain ⟨_, place⟩ := stands.object atObject
  intro scope member
  rcases List.mem_cons.mp member with rfl | outer
  · exact ⟨place.reached, place.readable noPage⟩
  · exact standing scope outer

/-- A value made of the element of a projection binds it where it needs it. -/
theorem projected_stands {chain : Chain} {object : ObjectPosition}
    {parameter : Parameter} {program : Program}
    (stands : chain.Stands document isOpen scopes start)
    (atObject : chain.position = .object object)
    (fits :
      ∀ places, Scopes.Bound (chain.scope parameter object :: scopes) places →
        Fits document isOpen places (.object (chain.placeOf object)) program) :
    ({ chain with
        position := .value (program.bindIfRead scopes.length) false } :
      Chain).Stands document isOpen scopes start := by
  obtain ⟨passage, _⟩ := stands.object atObject
  intro places bound
  exact passage.leads _ _ bound trivial fun other agree =>
    (fits _ (bound.of_agree agree).inside).bindIfRead

section walks

variable {plain : FieldDefinition → List Argument → Prop}

mutual

/-- The chain of a walk leads from the innermost scope to where the steps
end. -/
theorem walks_stand {scope : Scope} {outer : Scopes} {chain : Chain}
    (pipeline : Pipeline) (opens : Opens document isOpen plain)
    (walks : Compile.Walks document (scope :: outer) pipeline chain)
    (each : pipeline.EachField plain)
    (standing : Scopes.Stand document isOpen (scope :: outer)) :
    chain.Stands document isOpen (scope :: outer) scope.place ∧
      chain.pendingPage = none := by
  cases pipeline with
  | mk source steps =>
      cases walks with
      | mk resolved walks =>
          exact walksSteps_stand steps opens walks each standing
            (start_stands standing resolved) (fun waiting => by cases waiting)
termination_by structural pipeline

theorem walksSteps_stand {scopes : Scopes} {start : Place} {chain last : Chain}
    (steps : List Step) (opens : Opens document isOpen plain)
    (walks : Compile.WalksSteps document scopes steps chain last)
    (each : Pipeline.EachFieldOfSteps plain steps)
    (standing : scopes.Stand document isOpen)
    (stands : chain.Stands document isOpen scopes start)
    (waits :
      chain.pendingPage.isSome = true →
        steps.head?.any Step.isAllPages = true) :
    last.Stands document isOpen scopes start ∧ last.pendingPage = none := by
  cases steps with
  | nil =>
      cases walks
      refine ⟨stands, ?_⟩
      cases pending : chain.pendingPage with
      | none => rfl
      | some page =>
        exact absurd (waits (by rw [pending]; rfl)) Bool.false_ne_true
  | cons step rest =>
      cases walks with
      | @cons _ _ _ _ next _ terminal first others =>
          obtain ⟨nextStands, nextWaits⟩ :=
            walksStep_stand step opens first each.1 standing stands waits
          refine walksSteps_stand rest opens others each.2 standing
            (endedBy_stands nextStands step) ?_
          intro waiting
          apply nextWaits
          unfold Chain.endedBy at waiting
          split at waiting <;> exact waiting
termination_by structural steps

theorem walksStep_stand {scopes : Scopes} {start : Place} {paginate : Bool}
    {chain next : Chain} (step : Step) (opens : Opens document isOpen plain)
    (walks : Compile.WalksStep document scopes step paginate chain next)
    (each : Pipeline.EachFieldOfStep plain step)
    (standing : scopes.Stand document isOpen)
    (stands : chain.Stands document isOpen scopes start)
    (waits : chain.pendingPage.isSome = true → step.isAllPages = true) :
    next.Stands document isOpen scopes start ∧
      (next.pendingPage.isSome = true → paginate = true) := by
  have noPage : step.isAllPages = false → chain.pendingPage = none := by
    intro other
    cases pending : chain.pendingPage with
    | none => rfl
    | some page =>
        have allPages := waits (by rw [pending]; rfl)
        rw [other] at allPages
        cases allPages
  have keeps : ∀ {other : Chain}, other.pendingPage = none →
      other.pendingPage.isSome = true → paginate = true := by
    intro other none waiting
    rw [none] at waiting
    cases waiting
  cases step with
  | property field =>
      cases walks with
      | property selects =>
        exact selectsField_stands opens each stands (noPage rfl) selects
  | call field arguments =>
      cases walks with
      | call selects =>
        exact selectsField_stands opens each stands (noPage rfl) selects
  | allPages nodes =>
      cases walks with
      | allPages selects =>
          refine ⟨selectsPages_stands stands selects, keeps ?_⟩
          cases selects
          simp only [Chain.throughPages, mapList_eq, Chain.push]
  | cast typeName =>
      cases walks with
      | cast narrows =>
          obtain ⟨lastStands, none⟩ :=
            narrows_stands stands (noPage rfl) narrows
          exact ⟨lastStands, keeps none⟩
  | filter typeName =>
      cases walks with
      | filter narrows =>
          obtain ⟨lastStands, none⟩ :=
            narrows_stands stands (noPage rfl) narrows
          exact ⟨lastStands, keeps none⟩
  | single =>
      cases walks
      exact ⟨enforced_stands stands _, keeps (noPage rfl)⟩
  | singleOrDefault =>
      cases walks
      exact ⟨enforced_stands stands _, keeps (noPage rfl)⟩
  | toList =>
      cases walks
      exact ⟨stands, keeps (noPage rfl)⟩
  | record parameter fields =>
      cases walks with
      | @record _ _ _ _ _ object programs atObject compiled =>
          have inside :=
            scope_stands parameter standing (noPage rfl) stands atObject
          have each := walksFields_stand fields opens compiled each inside
          have fits : ∀ places,
              Scopes.Bound (chain.scope parameter object :: scopes) places →
                Fits document isOpen places (.object (chain.placeOf object))
                  (.buildRecord programs) :=
            fun places bound =>
              .buildRecord fun field member => each field member places bound
          exact ⟨projected_stands stands atObject fits, keeps (noPage rfl)⟩
  | value parameter inner =>
      cases walks with
      | valueEnded atObject ended walks finished =>
          have inside :=
            scope_stands parameter standing (noPage rfl) stands atObject
          obtain ⟨innerStands, _⟩ := walks_stand inner opens walks each inside
          exact ⟨projected_stands stands atObject (innerStands.finish finished),
            keeps (noPage rfl)⟩
      | valueContinued atObject ended walks oneList =>
          have inside :=
            scope_stands parameter standing (noPage rfl) stands atObject
          obtain ⟨innerStands, innerPage⟩ :=
            walks_stand inner opens walks each inside
          exact ⟨continued_stands stands atObject innerStands oneList,
            keeps innerPage⟩
  | toDictionary parameter key value =>
      cases walks with
      | @toDictionary _ _ _ _ _ _ keyChain valueChain index object keyProgram
          valueProgram listed atObject walksKey finishedKey walksValue
          finishedValue =>
          have inside :=
            scope_stands parameter standing (noPage rfl) stands atObject
          obtain ⟨keyStands, _⟩ := walks_stand key opens walksKey each.1 inside
          obtain ⟨valueStands, _⟩ :=
            walks_stand value opens walksValue each.2 inside
          obtain ⟨passage, _⟩ := stands.object atObject
          refine ⟨⟨index, listed, fun places bound => ?_⟩, keeps (noPage rfl)⟩
          rw [listed] at passage
          refine passage.dictionary bound (isEntry_bindIfRead rfl)
            fun other agree => ?_
          have innerBound :
              Scopes.Bound (chain.scope parameter object :: scopes) _ :=
            (bound.of_agree agree).inside
          exact Fits.bindIfRead
            (.keyValue (keyStands.finish finishedKey _ innerBound)
              (valueStands.finish finishedValue _ innerBound))
termination_by structural step

theorem walksFields_stand {scope : Scope} {outer : Scopes}
    {programs : List (String × Program)} (fields : List (String × Pipeline))
    (opens : Opens document isOpen plain)
    (walks : Compile.WalksFields document (scope :: outer) fields programs)
    (each : Pipeline.EachFieldOfRecord plain fields)
    (standing : Scopes.Stand document isOpen (scope :: outer)) :
    ∀ field ∈ programs, ∀ places, Scopes.Bound (scope :: outer) places →
      Fits document isOpen places (.object scope.place) field.2 := by
  cases fields with
  | nil =>
      cases walks
      intro field member
      cases member
  | cons entry fields =>
      obtain ⟨key, pipeline⟩ := entry
      cases walks with
      | cons walks finished others =>
          intro field member places bound
          rcases List.mem_cons.mp member with rfl | later
          · exact (walks_stand pipeline opens walks each.1 standing).1.finish
              finished places bound
          · exact walksFields_stand fields opens others each.2 standing field
              later places bound
termination_by structural fields

end

/-- The root of the response. -/
def Place.root : Place :=
  { set := Selections.rootId, path := [], repeated := false }

/-- Only the root is bound, at depth zero. -/
def Places.root : Places :=
  Function.update (fun _ => none) 0 (some Place.root)

/-- The program of a pipeline that compiles fits its document. -/
theorem fits_of_outcome {named : String → Prop} {pipeline : Pipeline}
    {compiled : CompiledOperation} {kind : OperationKind}
    (outcome : Compile.Outcome named pipeline compiled kind document)
    (opens : Opens document isOpen plain) (each : pipeline.EachField plain)
    (rootOpen : isOpen []) :
    Fits document isOpen Places.root (.object Place.root) compiled.program := by
  obtain ⟨chain, walks, finished⟩ := outcome.walks
  have standing : Scopes.Stand document isOpen [Compile.rootScope kind] := by
    intro scope member
    obtain rfl := List.mem_singleton.mp member
    exact ⟨.root, Or.inr rootOpen⟩
  have bound : Scopes.Bound [Compile.rootScope kind] Places.root :=
    ⟨Function.update_self .., trivial⟩
  exact (walks_stand pipeline opens walks each standing).1.finish finished _
    bound

end walks

/-- Whatever the names are, a pipeline that compiles has a document its program
fits. -/
theorem fits_of_compile {pipeline : Pipeline} {compiled : CompiledOperation}
    (success : compile pipeline = .ok compiled) :
    ∃ kind document,
      Compile.Outcome (fun _ => True) pipeline compiled kind document ∧
        Fits document (fun _ => True) Places.root (.object Place.root)
          compiled.program := by
  have names : Compile.PageNames fun _ => True := ⟨trivial, trivial, trivial⟩
  obtain ⟨kind, document, outcome⟩ :=
    Compile.outcome_of_compile names (pipeline.eachField fun _ _ => trivial)
      success
  exact ⟨kind, document, outcome, fits_of_outcome outcome
    (fun _ _ _ _ => trivial) (pipeline.eachField fun _ _ => (trivial : True))
    trivial⟩

end GraphPipeline
