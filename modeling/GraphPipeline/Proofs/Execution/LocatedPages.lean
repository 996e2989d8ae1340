import GraphPipeline.Proofs.CursorPaths
import GraphPipeline.Proofs.Execution.Merging
import GraphPipeline.Proofs.Safety

/-!
# Where pages are read

A fitting program reads the objects that are in no list at their response paths,
and passes through a paginated connection on no other way than by following its
pages. So the page recorded for a connection is the one at its path, also if the
evaluation fails later.
-/

namespace GraphPipeline

/-- A value of a place, which stands at the response path of the place unless it
is inside of a list. -/
structure Place.Sees (document : CompileState) (data : Json) (place : Place)
    (value : Json) : Prop where
  reached : document.selections.ReachesSet place.path place.set
  exposed : place.repeated = false → document.IsExposed place.path
  found : place.repeated = false → Run.valueAt? place.path data = some value

namespace Place.Sees

variable {document : CompileState} {data value : Json} {place : Place}

/-- What is below a key of a readable object. -/
theorem below (sees : place.Sees document data value)
    (readable : place.Readable document.IsOpen) {record : FieldRecord}
    {set : SetId}
    (member : record ∈ (document.selections.set place.set).fields)
    (child : record.child = some set) {inner : Json}
    (found : value.member? record.key = some inner) :
    (place.below record.key set).Sees document data inner where
  reached := .field sees.reached member child
  exposed := by
    intro single
    rcases readable with repeated | isOpen
    · have single : place.repeated = false := single
      rw [repeated] at single
      cases single
    · exact isOpen.below record.key
  found := by
    intro single
    simp [Place.below, Run.valueAt?_concat, sees.found single, found]

/-- Inside of lists, any value can stand. -/
theorem of_repeated
    (reached : document.selections.ReachesSet place.path place.set)
    (repeated : place.repeated = true) (value : Json) :
    place.Sees document data value where
  reached := reached
  exposed := fun single => by rw [repeated] at single; cases single
  found := fun single => by rw [repeated] at single; cases single

theorem inList (sees : place.Sees document data value) (item : Json) :
    place.inList.Sees document data item := by
  have reached :
      document.selections.ReachesSet place.inList.path place.inList.set :=
    sees.reached
  exact of_repeated reached rfl item

theorem fragment (sees : place.Sees document data value) {typeName : String}
    {set : SetId}
    (found :
      Entries.lookup? (document.selections.set place.set).fragments typeName =
        some set) :
    Place.Sees document data { place with set } value where
  reached := .fragment sees.reached found
  exposed := sees.exposed
  found := sees.found

end Place.Sees

/-- What an extent consists of. -/
def Extent.place : Extent → Place
  | .object place => place
  | .items _ place => place

theorem Extent.place_of (type : TypeRef) (place : Place) :
    (Extent.of type place).place = place := by
  unfold Extent.of
  split <;> rfl

/-- A value of a place that a program comes to by fields of open places.  It
stands at the path of the place, unless it is inside of a list. -/
structure Place.Stands (isOpen : List String → Prop) (data : Json)
    (place : Place) (value : Json) : Prop where
  way : place.repeated = false →
    place.path = [] ∨ ∃ parent key, isOpen parent ∧ place.path = parent ++ [key]
  found : place.repeated = false → Run.valueAt? place.path data = some value

namespace Place.Stands

variable {isOpen : List String → Prop} {data value : Json} {place : Place}

theorem root (isOpen : List String → Prop) (data : Json) :
    Place.root.Stands isOpen data data where
  way := fun _ => Or.inl rfl
  found := fun _ => rfl

theorem below (stands : place.Stands isOpen data value)
    (readable : place.Readable isOpen)
    {key : String} {inner : Json} (found : value.member? key = some inner)
    (set : SetId) :
    (place.below key set).Stands isOpen data inner where
  way := by
    intro single
    have single : place.repeated = false := single
    rcases readable with repeated | opened
    · rw [repeated] at single
      cases single
    · exact Or.inr ⟨place.path, key, opened, rfl⟩
  found := by
    intro single
    simp [Place.below, Run.valueAt?_concat, stands.found single, found]

theorem of_repeated (repeated : place.repeated = true) (value : Json) :
    place.Stands isOpen data value where
  way := fun single => by rw [repeated] at single; cases single
  found := fun single => by rw [repeated] at single; cases single

theorem fragment (stands : place.Stands isOpen data value) (set : SetId) :
    Place.Stands isOpen data { place with set } value where
  way := stands.way
  found := stands.found

end Place.Stands

/-- The values bound at each depth are values of their places. -/
def Places.Stand (isOpen : List String → Prop) (data : Json) (places : Places)
    (bindings : Nat → Option Json) : Prop :=
  ∀ depth place value, places depth = some place → bindings depth = some value →
    place.Stands isOpen data value

theorem Places.Stand.update {isOpen : List String → Prop} {data value : Json}
    {places : Places} {place : Place} {bindings : Nat → Option Json}
    (stand : places.Stand isOpen data bindings)
    (stands : place.Stands isOpen data value) (depth : Nat) :
    Places.Stand isOpen data (Function.update places depth (some place))
      (Function.update bindings depth (some value)) := by
  intro other found element sameFound bound
  by_cases same : other = depth
  · subst other
    rw [Function.update_self] at sameFound bound
    obtain rfl := Option.some.inj sameFound
    obtain rfl := Option.some.inj bound
    exact stands
  · rw [Function.update_of_ne same] at sameFound bound
    exact stand other found element sameFound bound

theorem Places.stand_root (isOpen : List String → Prop) (data : Json) :
    Places.root.Stand isOpen data (EvaluationState.initial data).binding? := by
  rw [binding?_initial]
  refine Places.Stand.update ?_ (Place.Stands.root isOpen data) 0
  intro depth place value found
  cases found

/-- A connection of the document whose pages a program can follow. -/
structure Subquery.Followed (document : CompileState) (subquery : Subquery) :
    Prop where
  exposed : document.IsExposed subquery.path
  reached : ∃ set, document.selections.ReachesSet subquery.path set
  cursor : document.selections.CursorAt subquery.path subquery.variableName
  keys : subquery.keys.pageInfo ≠ subquery.keys.nodes

/-- A connection that is selected without passing through another one can be
followed. -/
theorem Subquery.followed_of_selected {named : String → Prop}
    {document : CompileState}
    (formed : document.WellFormed named) {subquery : Subquery} {set : SetId}
    {pageInfo nodes : FieldRecord} {element : TypeRef}
    {hasNextPage endCursor : String}
    (exposed : document.IsExposed subquery.path)
    (reached : document.selections.ReachesSet subquery.path set)
    (cursor : document.selections.CursorAt subquery.path subquery.variableName)
    (infoMember : pageInfo ∈ (document.selections.set set).fields)
    (infoType : pageInfo.type = pageInfoField.type)
    (nodesMember : nodes ∈ (document.selections.set set).fields)
    (elementType : nodes.type.element? = some element)
    (keys : subquery.keys = ⟨nodes.key, pageInfo.key, hasNextPage, endCursor⟩) :
    subquery.Followed document where
  exposed := exposed
  reached := ⟨set, reached⟩
  cursor := cursor
  keys := by
    rw [keys]
    intro sameKey
    have sameType :=
      (Selections.sameKey_matches formed.selections rfl infoMember nodesMember
        sameKey).2
    have single : pageInfoField.type.element? = none := by decide
    rw [← sameType, infoType, single] at elementType
    cases elementType

theorem Program.Reads.guarded {given : Option AllNodes} {reading : Reading}
    {bindings : Nat → Option Json} {type : TypeRef} {inner : Program}
    {value : Json}
    (reads : (inner.guarded type).Reads given reading bindings value) :
    inner.Reads given reading bindings value := by
  unfold Program.guarded at reads
  split at reads
  · cases reads with
    | optional _ inside => exact inside
  · exact reads

/-- The connection stands in the data where the document selects it. -/
structure Reading.At (document : CompileState) (isOpen : List String → Prop)
    (data : Json) (reading : Reading) (subquery : Subquery) : Prop where
  known : document.subqueries[reading.id]? = some subquery
  keys : reading.keys = subquery.keys
  found : Run.valueAt? subquery.path data = some reading.connection
  way : subquery.path = [] ∨
    ∃ parent key, isOpen parent ∧ subquery.path = parent ++ [key]
  followed : document.IsExposed subquery.path → subquery.Followed document

/-- A fitting program comes to the connections that the document selects, each
at its path. -/
theorem Fits.reads {named : String → Prop} {document : CompileState}
    (formed : document.WellFormed named) {isOpen : List String → Prop}
    {data : Json} {given : Option AllNodes} {reading : Reading}
    {places : Places} {extent : Extent} {program : Program}
    (fits : Fits document isOpen places extent program) :
    ∀ {bindings value}, places.Stand isOpen data bindings →
      extent.place.Stands isOpen data value →
        program.Reads given reading bindings value →
          ∃ subquery, reading.At document isOpen data subquery := by
  induction fits with
  | readScalar _ _ _ =>
      intro bindings value stand stands reads
      cases reads
  | @field places place record set inner member child readable _ induction =>
      intro bindings value stand stands reads
      cases reads with
      | field found inside =>
          apply induction stand _ inside.guarded
          rw [Extent.place_of]
          exact stands.below readable found set
  | mapList _ _ induction =>
      intro bindings value stand stands reads
      cases reads with
      | item _ inside =>
        exact induction stand (.of_repeated rfl _) inside.guarded
  | toDictionary _ _ _ induction =>
      intro bindings value stand stands reads
      cases reads with
      | entry _ inside =>
        exact induction stand (.of_repeated rfl _) inside.guarded
  | narrow _ _ _ _ induction =>
      intro bindings value stand stands reads
      cases reads with
      | narrow _ inside => exact induction stand (stands.fragment _) inside
  | buildRecord _ induction =>
      intro bindings value stand stands reads
      cases reads with
      | member member inside => exact induction _ member stand stands inside
  | enforceSingle _ induction =>
      intro bindings value stand stands reads
      cases reads with
      | enforceSingle inside => exact induction stand stands inside
  | keyValue _ _ keyInduction valueInduction =>
      intro bindings value stand stands reads
      cases reads with
      | key inside => exact keyInduction stand stands inside
      | value inside => exact valueInduction stand stands inside
  | @subquerySink places place id subquery pageInfo hasNextPage endCursor nodes
      info set element inner known path once cursor reached infoMember infoType
      infoChild nextMember nextType lastMember lastType nodesMember nodesChild
      elementType keys _ induction =>
      intro bindings value stand stands reads
      have stands : place.Stands isOpen data value := stands
      rcases reads.sink with rfl | ⟨_, _, inside⟩
      · refine ⟨subquery, known, rfl, path ▸ stands.found once,
          path ▸ stands.way once, ?_⟩
        intro exposed
        exact Subquery.followed_of_selected formed exposed (path ▸ reached)
          (path ▸ cursor) infoMember infoType nodesMember elementType keys
      · exact induction stand (.of_repeated rfl _) inside
  | bind _ induction =>
      intro bindings value stand stands reads
      cases reads with
      | bind inside => exact induction (stand.update stands _) stands inside
  | @parameter places place extent depth inner known _ induction =>
      intro bindings value stand stands reads
      cases reads with
      | parameter bound inside =>
          exact induction stand (stand depth place _ known bound) inside

/-- Every page is the page of its connection in the data. -/
def Pages.Located (document : CompileState) (data : Json) (pages : Pages) :
    Prop :=
  ∀ id page, pages.lookup? id = some page →
    ∃ subquery connection path, document.subqueries[id]? = some subquery ∧
      subquery.Followed document ∧
        Run.valueAt? subquery.path data = some connection ∧
        Page.read connection subquery.keys path = .ok page

theorem Pages.lookup?_append {pages : Pages} {id other : SubqueryId}
    {page found : Page}
    (known : Pages.lookup? (pages ++ [(id, page)]) other = some found) :
    pages.lookup? other = some found ∨ (other = id ∧ found = page) := by
  simp only [lookup?, List.find?_append] at known ⊢
  cases before : pages.find? (·.1 == other) with
  | some entry =>
      rw [before] at known
      exact Or.inl known
  | none =>
      rw [before] at known
      by_cases same : id = other
      · simp only [List.find?_cons, same, beq_self_eq_true, Option.none_or,
          Option.map_some, Option.some.injEq] at known
        exact Or.inr ⟨same.symm, known.symm⟩
      · have different : (id == other) = false := beq_eq_false_iff_ne.mpr same
        simp [different] at known

/-- The pages of the connections that a first evaluation reaches, also if it
fails later. -/
def Program.reached (program : Program) (data : Json) : Pages :=
  ((Evaluate.program none program data).result (.initial data)).2.pages

/-- What a program reads of its data. -/
def Program.ReadsData (program : Program) (given : Option AllNodes)
    (data : Json) (reading : Reading) : Prop :=
  program.Reads given reading (EvaluationState.initial data).binding? data

section reached

variable {named : String → Prop} {document : CompileState}
  {isOpen : List String → Prop} {program : Program} {data : Json}

theorem Fits.bound_root
    (fits : Fits document isOpen Places.root (.object Place.root) program)
    (data : Json) :
    ∀ depth, program.readsBound depth = true →
      ((EvaluationState.initial data).binding? depth).isSome = true := by
  intro depth reads
  have known := fits.isSome_of_readsBound depth reads
  rw [binding?_initial]
  cases depth with
  | zero => rfl
  | succ depth => cases known

/-- Every page is that of a connection the program has come to. -/
theorem reached_read
    (fits : Fits document isOpen Places.root (.object Place.root) program)
    {id : SubqueryId} {page : Page}
    (known : (program.reached data).lookup? id = some page) :
    ∃ reading path, reading.id = id ∧ program.ReadsData none data reading ∧
      Page.read reading.connection reading.keys path = .ok page := by
  have settles : Evaluate.Settles (EvaluationState.initial data).binding?
      (fun pages => ∀ id page, pages.lookup? id = some page → ∃ reading path,
        reading.id = id ∧ program.ReadsData none data reading ∧
          Page.read reading.connection reading.keys path = .ok page)
      Evaluate.Bound (fun _ => True) (Evaluate.program none program data) := by
    apply Evaluate.program_settles none program _ (fits.bound_root data)
    intro reading reads path page pages read earlier other found lookup
    rcases Pages.lookup?_append lookup with before | ⟨rfl, rfl⟩
    · exact earlier other found before
    · exact ⟨reading, path, rfl, reads, read⟩
  apply settles.pages rfl _ id page known
  intro other found absurd
  cases absurd

theorem Fits.readsData (formed : document.WellFormed named)
    (fits : Fits document isOpen Places.root (.object Place.root) program)
    {given : Option AllNodes} {reading : Reading}
    (reads : program.ReadsData given data reading) :
    ∃ subquery, reading.At document isOpen data subquery :=
  fits.reads formed (Places.stand_root isOpen data) (.root isOpen data) reads

theorem reached_located (formed : document.WellFormed named)
    (fits :
      Fits document document.IsOpen Places.root (.object Place.root) program)
    (data : Json) : (program.reached data).Located document data := by
  intro id page known
  obtain ⟨reading, path, rfl, reads, read⟩ := reached_read fits known
  obtain ⟨subquery, at'⟩ := fits.readsData formed reads
  have exposed : document.IsExposed subquery.path := by
    rcases at'.way with atRoot | ⟨parent, key, isOpen, below⟩
    · rw [atRoot]
      exact document.isOpen_root.exposed
    · rw [below]
      exact isOpen.below key
  rw [at'.keys] at read
  exact ⟨subquery, reading.connection, path, at'.known, at'.followed exposed,
    at'.found, read⟩

end reached

end GraphPipeline
