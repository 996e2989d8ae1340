import GraphPipeline.Proofs.Compile.Fitting

/-!
# Evaluation of fitting programs

A program that fits a document finds on every conforming response what it looks
for.  It can only be rejected by the data itself: an object may have another
type than the one a cast asks for, a required value may be absent, and the keys
of a dictionary may clash or be no scalars.
-/

namespace GraphPipeline

/-- The response is well-formed but not what the pipeline asks for. -/
def ExtractionError.isRejection : ExtractionError → Bool
  | .typeMismatch _ _ _ => true
  | .absent _ => true
  | .duplicateKey _ _ => true
  | .invalidKey _ _ => true
  | _ => false

namespace Selections

variable {named : String → Prop} {selections : Selections}

/-- What conformance to the typed form of a set says about the members of an
object. -/
theorem admits_typed (formed : WellFormed named selections) {id : SetId}
    {value : Json}
    (admits : (selections.typed id).Admits value) :
    ∃ members, value = .object members ∧
      ((selections.set id).requiresTypename = true →
        ∃ typeName,
          Entries.lookup? members typenameKey = some (.string typeName)) ∧
      (∀ record ∈ (selections.set id).fields,
        (selections.typedField record).Admits members) ∧
      ∀ fragment ∈ (selections.set id).fragments,
        Entries.lookup? members typenameKey = some (.string fragment.1) →
          (selections.typed fragment.2).Admits (.object members) := by
  rw [typed_eq formed] at admits
  unfold TypedSet.Admits at admits
  obtain ⟨members, rfl, typename, fields, fragments⟩ := admits
  rw [TypedSet.admitsFields_iff] at fields
  rw [TypedSet.admitsFragments_iff] at fragments
  refine ⟨members, rfl, ?_, ?_, ?_⟩
  · intro required
    exact typename
      (by simp [TypedSet.asksTypename, TypedSet.requiresTypename, required])
  · intro record member
    exact fields _ (List.mem_map_of_mem member)
  · intro fragment member sameType
    exact fragments _ (List.mem_map_of_mem member) sameType

/-- Only fields of composite types have selections of their own. -/
theorem child_isSome (formed : WellFormed named selections) {id : SetId}
    {record : FieldRecord} (member : record ∈ (selections.set id).fields) :
    record.child.isSome = record.type.kind.isComposite := by
  obtain ⟨entry, known, matching⟩ := formed.recorded member
  have composite := formed.composite known
  rw [matching.child, matching.type] at composite
  simpa using composite

theorem admits_leaf {record : FieldRecord} {members : Entries Json}
    (leaf : record.child = none)
    (admits : (selections.typedField record).Admits members) :
    ∃ value, Entries.lookup? members record.key = some value ∧
      record.type.wrapping.Admits
        (fun leaf => record.type.kind.accepts leaf = true)
        value := by
  simpa only [typedField, leaf, Option.map_none, TypedField.Admits] using admits

theorem admits_below {record : FieldRecord} {set : SetId}
    {members : Entries Json}
    (child : record.child = some set)
    (admits : (selections.typedField record).Admits members) :
    ∃ value, Entries.lookup? members record.key = some value ∧
      record.type.wrapping.Admits (selections.typed set).Admits value := by
  simpa only [typedField, child, Option.map_some, TypedField.Admits]
    using admits

end Selections

theorem Json.isNull_eq_false {value : Json} (notNull : value ≠ .null) :
    value.isNull = false := by
  cases value with
  | null => exact absurd rfl notNull
  | bool value => rfl
  | number value => rfl
  | string value => rfl
  | array items => rfl
  | object members => rfl

/-- A value that can stand at an extent of a document. -/
def Extent.Admits (document : CompileState) : Extent → Json → Prop
  | .object place, value => (document.selections.typed place.set).Admits value
  | .items element place, value => ∃ items, value = .array items ∧
      ∀ item ∈ items,
        element.wrapping.Admits (document.selections.typed place.set).Admits
          item

/-- A value of a type is null, where the type admits it, or else stands at the
extent of the type. -/
theorem Wrapping.Admits.extent {document : CompileState} {type : TypeRef}
    {value : Json}
    (place : Place)
    (admits :
      type.wrapping.Admits (document.selections.typed place.set).Admits value) :
    (value = .null ∧ type.isNullable = true) ∨
      (value.isNull = false ∧
        (Extent.of type place).Admits document value) := by
  cases admits with
  | null optional =>
      exact Or.inl
        ⟨rfl, by simp [TypeRef.isNullable, Wrapping.isNullable, optional]⟩
  | value single present holds =>
      have noElement : type.element? = none := by
        simp [TypeRef.element?, Wrapping.element?_eq_none.mpr single]
      refine Or.inr ⟨present, ?_⟩
      simpa only [Extent.of, noElement, Extent.Admits] using holds
  | list element each =>
      refine Or.inr ⟨rfl, ?_⟩
      simp only [Extent.of, TypeRef.element?, element, Option.map_some,
        Extent.Admits]
      exact ⟨_, rfl, each⟩

/-- A value of a list type that is not null is a list of elements. -/
theorem Wrapping.Admits.items {document : CompileState} {type element : TypeRef}
    {place : Place} {value : Json}
    (admits :
      type.wrapping.Admits (document.selections.typed place.set).Admits value)
    (elementType : type.element? = some element)
    (present : value.isNull = false) :
    (Extent.items element place).Admits document value := by
  rcases admits.extent place with ⟨rfl, _⟩ | ⟨_, inside⟩
  · cases present
  · rwa [Extent.of, elementType] at inside

/-- A value of a type that is no list is an object, if it is not null. -/
theorem Wrapping.Admits.single {holds : Json → Prop} {type : TypeRef}
    {value : Json}
    (admits : type.wrapping.Admits holds value) (noList : type.element? = none)
    (present : value.isNull = false) : holds value := by
  cases admits with
  | null _ => simp [Json.isNull] at present
  | value _ _ satisfied => exact satisfied
  | list element _ => simp [TypeRef.element?, element] at noList

theorem Wrapping.Admits.notNull {holds : Json → Prop} {type : TypeRef}
    {value : Json}
    (admits : type.wrapping.Admits holds value) :
    value = .null → type.isNullable = true := by
  rintro rfl
  cases admits with
  | null optional => simp [TypeRef.isNullable, Wrapping.isNullable, optional]
  | value _ present _ => simp [Json.isNull] at present

theorem Wrapping.Admits.present {holds : Json → Prop} {type : TypeRef}
    {value : Json}
    (admits : type.wrapping.Admits holds value)
    (required : type.isNullable = false) :
    value.isNull = false := by
  refine Json.isNull_eq_false ?_
  intro isNull
  have nullable := admits.notNull isNull
  rw [required] at nullable
  cases nullable

/-- The nodes of every connection that are given conform to its selections. -/
def AllNodes.Conform (document : CompileState) (given : Option AllNodes) :
    Prop :=
  ∀ {id nodes subquery set record child},
    given.bind (·.lookup? id) = some nodes →
    document.subqueries[id]? = some subquery →
      document.selections.ReachesSet subquery.path set →
        record ∈ (document.selections.set set).fields →
          record.key = subquery.keys.nodes → record.child = some child →
            record.type.wrapping.Admits (document.selections.typed child).Admits
              (.array nodes)

namespace Evaluate

variable {bindings : Nat → Option Json} {recorded : Pages → Prop}

def Rejected (error : ExtractionError) : Prop :=
  error.isRejection = true

theorem memberOf_settles {expected : ExtractionError → Prop}
    {members : Entries Json} {key : String} {value : Json}
    (found : Entries.lookup? members key = some value) :
    Settles bindings recorded expected (fun result => result = value)
      (memberOf (.object members) key) := by
  refine settles_atPath ?_ ?_
  · intro path result same
    simp only [found] at same
    exact (Except.ok.inj same).symm
  · intro path error same
    simp only [found] at same
    cases same

theorem itemsOf_settles {expected : ExtractionError → Prop}
    {items : List Json} :
    Settles bindings recorded expected (fun result => result = items)
      (itemsOf (.array items)) := by
  refine settles_atPath ?_ ?_
  · intro path result same
    exact (Except.ok.inj same).symm
  · intro path error same
    cases same

theorem readLeaf_settles {expected : ExtractionError → Prop}
    {members : Entries Json} {key : String} {type : TypeRef} {leaf : Json}
    (found : Entries.lookup? members key = some leaf)
    (typed :
      type.wrapping.Admits (fun leaf => type.kind.accepts leaf = true) leaf) :
    Settles bindings recorded expected (fun result => result = leaf)
      (readLeaf key type (.object members)) := by
  unfold readLeaf
  refine (memberOf_settles found).bind ?_
  rintro _ rfl
  refine settles_within ?_
  split
  · refine Settles.bind (settles_modify ?_ ?_ ?_) fun _ _ =>
      (checkLeaf_settles typed).bind fun _ _ => settles_pure rfl
    · exact fun _ => rfl
    · exact fun _ => rfl
    · exact fun _ kept => kept
  · exact (checkLeaf_settles typed).bind fun _ _ => settles_pure rfl

theorem narrowed_settles {expected : ExtractionError → Prop}
    {typeName received : String} {mode : NarrowingMode}
    {evaluate : Json → Evaluate Json} {members : Entries Json}
    {post : Json → Prop}
    (typename : Entries.lookup? members typenameKey = some (.string received))
    (mismatch : ∀ path, expected (.typeMismatch path typeName received))
    (null : post .null)
    (inside : received = typeName →
      Settles bindings recorded expected post (evaluate (.object members))) :
    Settles bindings recorded expected post
      (narrowed typeName mode evaluate (.object members)) := by
  have found : typenameOf (.object members) = pure received := by
    simp [typenameOf, Json.member?, Json.members?, typename, Json.text?]
  have narrowing :
      Settles bindings recorded expected (fun result => result = received)
        (typenameOf (.object members)) := by
    rw [found]
    exact settles_pure rfl
  by_cases same : received = typeName
  · cases mode with
    | cast =>
        refine narrowing.bind ?_
        rintro _ rfl
        simpa [same] using inside same
    | filter =>
        refine narrowing.bind ?_
        rintro _ rfl
        simp only [same, decide_true]
        refine Settles.bind (settles_modify ?_ ?_ ?_) fun _ _ => inside same
        · exact fun _ => rfl
        · exact fun _ => rfl
        · exact fun _ kept => kept
  · cases mode with
    | cast =>
        refine narrowing.bind ?_
        rintro _ rfl
        simpa [same] using settles_failAt mismatch
    | filter =>
        refine narrowing.bind ?_
        rintro _ rfl
        simpa [same] using settles_absent null

theorem fieldPrograms_settles {expected : ExtractionError → Prop}
    {given : Option AllNodes} {fields : List (String × Program)} {value : Json}
    (each : ∀ field ∈ fields,
      Settles bindings recorded expected (fun _ => True)
        (program given field.2 value)) :
    Settles bindings recorded expected (fun _ => True)
      (fieldPrograms given fields value) := by
  induction fields with
  | nil => exact settles_pure trivial
  | cons field fields induction =>
      unfold fieldPrograms
      refine (each field List.mem_cons_self).bind fun _ _ => ?_
      refine (induction fun other member => each other
        (List.mem_cons_of_mem _ member)).bind fun _ _ => ?_
      exact settles_pure trivial

/-- Null is passed over by the program of a type that admits it. -/
theorem guarded_settles {expected : ExtractionError → Prop}
    {given : Option AllNodes} {type : TypeRef} {inner : Program} {value : Json}
    {post : Json → Prop}
    (null : post .null) (nullable : value = .null → type.isNullable = true)
    (present : value.isNull = false →
      Settles bindings recorded expected post (program given inner value)) :
    Settles bindings recorded expected post
      (program given (inner.guarded type) value) := by
  unfold Program.guarded
  split
  · unfold program
    split
    · exact settles_absent null
    · rename_i notNull
      exact present (by simpa using notNull)
  · rename_i required
    refine present (Json.isNull_eq_false ?_)
    intro isNull
    exact required (nullable isNull)

/-- The pages of a connection with page information and nodes can be read. -/
theorem page_read_ok {members info : Entries Json} {keys : PageKeys}
    {hasNextPage : Bool} {nodes : Json}
    (pageInfo : Entries.lookup? members keys.pageInfo = some (.object info))
    (flag : Entries.lookup? info keys.hasNextPage = some (.bool hasNextPage))
    (found : Entries.lookup? members keys.nodes = some nodes)
    (list : nodes = .null ∨ ∃ items, nodes = .array items)
    (path : ResponsePath) :
    ∃ page, Page.read (.object members) keys path = .ok page := by
  have nodesFound : ∃ items, Page.nodesAt path keys members = .ok items := by
    unfold Page.nodesAt
    rw [found]
    rcases list with rfl | ⟨items, rfl⟩
    · exact ⟨[], rfl⟩
    · exact ⟨items, rfl⟩
  obtain ⟨items, nodesFound⟩ := nodesFound
  simp [Page.read, Page.objectAt, Page.pageInfoAt, Page.hasNextPageAt, pageInfo,
    flag, nodesFound, bind, Except.bind, pure, Except.pure, Json.members?,
    Json.bool?]

theorem connection_readable {named : String → Prop} {selections : Selections}
    (formed : selections.WellFormed named) {set infoSet : SetId}
    {pageInfo hasNextPage endCursor nodes : FieldRecord} {keys : PageKeys}
    {members : Entries Json} {nodesValue : Json}
    (fields : ∀ record ∈ (selections.set set).fields,
      (selections.typedField record).Admits members)
    (infoMember : pageInfo ∈ (selections.set set).fields)
    (infoType : pageInfo.type = pageInfoField.type)
    (infoChild : pageInfo.child = some infoSet)
    (nextMember : hasNextPage ∈ (selections.set infoSet).fields)
    (nextType : hasNextPage.type = hasNextPageField.type)
    (sameKeys :
      keys = ⟨nodes.key, pageInfo.key, hasNextPage.key, endCursor.key⟩)
    (nodesFound : Entries.lookup? members nodes.key = some nodesValue)
    (list : nodesValue = .null ∨ ∃ items, nodesValue = .array items)
    (path : ResponsePath) :
    ∃ page, Page.read (.object members) keys path = .ok page := by
  obtain ⟨infoValue, infoFound, infoTyped⟩ :=
    Selections.admits_below infoChild (fields _ infoMember)
  have infoAdmits : (selections.typed infoSet).Admits infoValue := by
    refine infoTyped.single (by rw [infoType]; decide) (infoTyped.present ?_)
    rw [infoType]
    decide
  obtain ⟨infoMembers, rfl, _, infoFields, _⟩ :=
    Selections.admits_typed formed infoAdmits
  have noChild : hasNextPage.child = none := by
    have composite := Selections.child_isSome formed nextMember
    rw [nextType] at composite
    exact Option.not_isSome_iff_eq_none.mp (by rw [composite]; decide)
  obtain ⟨flag, flagFound, flagTyped⟩ :=
    Selections.admits_leaf noChild (infoFields _ nextMember)
  have flagBool : ∃ value, flag = .bool value := by
    have accepted : hasNextPage.type.kind.accepts flag = true := by
      refine flagTyped.single (by rw [nextType]; decide) (flagTyped.present ?_)
      rw [nextType]
      decide
    rw [nextType] at accepted
    cases flag with
    | bool value => exact ⟨value, rfl⟩
    | null => cases accepted
    | number value => cases accepted
    | string value => cases accepted
    | array items => cases accepted
    | object members => cases accepted
  obtain ⟨hasNext, rfl⟩ := flagBool
  subst keys
  exact page_read_ok infoFound flagFound nodesFound list path

theorem isEntry_guarded (type : TypeRef) (inner : Program) :
    (inner.guarded type).isEntry = inner.isEntry := by
  unfold Program.guarded
  split <;> rfl

/-- The values bound at each depth conform to their places. -/
def Bindings (document : CompileState) (places : Places)
    (bindings : Nat → Option Json) : Prop :=
  ∀ depth place,
    places depth = some place → ∃ value, bindings depth = some value ∧
    (document.selections.typed place.set).Admits value

theorem Bindings.update {document : CompileState} {places : Places}
    {place : Place} {value : Json} (bound : Bindings document places bindings)
    (admits : (document.selections.typed place.set).Admits value)
    (depth : Nat) :
    Bindings document (Function.update places depth (some place))
      (Function.update bindings depth (some value)) := by
  intro other found sameFound
  by_cases same : other = depth
  · subst other
    rw [Function.update_self] at sameFound ⊢
    obtain rfl := Option.some.inj sameFound
    exact ⟨value, rfl, admits⟩
  · rw [Function.update_of_ne same] at sameFound ⊢
    exact bound other found sameFound

/-- The nodes of a connection that conforms are a list of what its type says,
whether they are given or read from the connection. -/
theorem connection_settles {named : String → Prop} {document : CompileState}
    (formed : document.WellFormed named) {given : Option AllNodes}
    (conform : AllNodes.Conform document given) {place : Place}
    {id : SubqueryId} {subquery : Subquery}
    {pageInfo hasNextPage endCursor nodes : FieldRecord} {info set : SetId}
    {element : TypeRef} {value : Json}
    (found : document.subqueries[id]? = some subquery)
    (reached : document.selections.ReachesSet subquery.path place.set)
    (infoMember : pageInfo ∈ (document.selections.set place.set).fields)
    (infoType : pageInfo.type = pageInfoField.type)
    (infoChild : pageInfo.child = some info)
    (nextMember : hasNextPage ∈ (document.selections.set info).fields)
    (nextType : hasNextPage.type = hasNextPageField.type)
    (nodesMember : nodes ∈ (document.selections.set place.set).fields)
    (nodesChild : nodes.child = some set)
    (elementType : nodes.type.element? = some element)
    (keys :
      subquery.keys = ⟨nodes.key, pageInfo.key, hasNextPage.key, endCursor.key⟩)
    (admits : (document.selections.typed place.set).Admits value) :
    Settles bindings (fun _ => True) Rejected
      ((Extent.items element (place.below nodes.key set).inList).Admits
        document)
      (nodesOf given id subquery.keys value) := by
  obtain ⟨members, rfl, _, fields, _⟩ :=
    Selections.admits_typed formed.selections admits
  obtain ⟨nodesValue, nodesFound, nodesTyped⟩ :=
    Selections.admits_below nodesChild (fields _ nodesMember)
  have listed : nodesValue = .null ∨ (Extent.items element
      (place.below nodes.key set)).Admits document nodesValue := by
    by_cases isNull : nodesValue = .null
    · exact Or.inl isNull
    · exact Or.inr (Wrapping.Admits.items nodesTyped elementType
        (Json.isNull_eq_false isNull))
  have readable :=
    connection_readable formed.selections fields infoMember infoType infoChild
      nextMember nextType keys nodesFound
      (listed.imp_right fun ⟨items, same, _⟩ => ⟨items, same⟩)
  have nodesAt :
      Entries.lookup? members subquery.keys.nodes = some nodesValue := by
    rw [keys]
    exact nodesFound
  refine nodesOf_settles ?_ (memberOf_settles nodesAt) ?_ (fun _ _ => trivial)
    ?_
  · intro replacing replaced
    refine Wrapping.Admits.items ?_ elementType rfl
    exact conform replaced found reached nodesMember (by rw [keys]) nodesChild
  · rintro _ result rfl
    rcases listed with rfl | items
    · exact ⟨[], rfl, by simp⟩
    · obtain ⟨items, rfl, each⟩ := items
      exact ⟨items, rfl, each⟩
  · intro path error failed
    obtain ⟨page, read⟩ := readable path
    rw [read] at failed
    cases failed

/-- A program that fits a document fails on conforming values only when they are
not what the pipeline asks for. -/
theorem fits_settles {named : String → Prop} {document : CompileState}
    {isOpen : List String → Prop} (formed : document.WellFormed named)
    {given : Option AllNodes} (conform : AllNodes.Conform document given)
    {places : Places} {extent : Extent} {program : Program}
    (fits : Fits document isOpen places extent program) :
    ∀ {bindings value}, Bindings document places bindings →
      extent.Admits document value →
        Settles bindings (fun _ => True) Rejected
          (fun result => program.isEntry = true → result.IsEntry)
          (Evaluate.program given program value) := by
  induction fits with
  | readScalar member leaf readable =>
      intro bindings value bound admits
      obtain ⟨members, rfl, _, fields, _⟩ :=
        Selections.admits_typed formed.selections admits
      obtain ⟨leafValue, found, typed⟩ :=
        Selections.admits_leaf leaf (fields _ member)
      unfold Evaluate.program
      exact (readLeaf_settles found typed).weaken
        fun _ _ entry => by simp [Program.isEntry] at entry
  | @field places place record set inner member child readable _ induction =>
      intro bindings value bound admits
      obtain ⟨members, rfl, _, fields, _⟩ :=
        Selections.admits_typed formed.selections admits
      obtain ⟨below, found, typed⟩ :=
        Selections.admits_below child (fields _ member)
      unfold Evaluate.program
      refine (memberOf_settles found).bind ?_
      rintro _ rfl
      simp only [Program.isEntry, isEntry_guarded]
      refine settles_within
        (guarded_settles (fun _ => Or.inl rfl) typed.notNull ?_)
      intro present
      rcases typed.extent (place.below record.key set) with
        ⟨rfl, _⟩ | ⟨_, inside⟩
      · simp [Json.isNull] at present
      · exact induction bound inside
  | mapList single _ induction =>
      intro bindings value bound admits
      obtain ⟨items, rfl, each⟩ := admits
      unfold Evaluate.program
      refine itemsOf_settles.bind ?_
      rintro _ rfl
      refine (settles_isolated (mapItems_settles ?_ 0)).bind fun _ _ =>
        settles_pure fun entry => by simp [Program.isEntry] at entry
      intro item member
      refine guarded_settles trivial (each item member).notNull
        fun present => ?_
      exact (induction bound (each item member |>.single single present)).weaken
        fun _ _ => trivial
  | @toDictionary places place element entry single shape _ induction =>
      intro bindings value bound admits
      obtain ⟨items, rfl, each⟩ := admits
      unfold Evaluate.program
      refine itemsOf_settles.bind ?_
      rintro items rfl
      have entries : ∀ item ∈ items,
          Settles bindings (fun _ => True) Rejected Json.IsEntry
            (Evaluate.program given (entry.guarded element) item) := by
        intro item member
        refine guarded_settles (Or.inl rfl) (each item member).notNull
          fun present => ?_
        exact (induction bound
          ((each item member).single single present)).weaken
          fun _ entryShape => entryShape shape
      refine (addEntries_settles entries (fun dictionary entry shape =>
        insertEntry_settles shape (fun _ _ => rfl) (fun _ _ => rfl)) 0 []).bind
          fun _ _ =>
            settles_pure fun entry => by simp [Program.isEntry] at entry
  | narrow found required readable _ induction =>
      intro bindings value bound admits
      obtain ⟨members, rfl, typename, _, fragments⟩ :=
        Selections.admits_typed formed.selections admits
      obtain ⟨received, typenameFound⟩ := typename required
      have member := Entries.mem_of_lookup? found
      unfold Evaluate.program
      refine narrowed_settles typenameFound (fun _ => rfl) (fun _ => Or.inl rfl)
        ?_
      rintro rfl
      exact induction bound (fragments _ member typenameFound)
  | buildRecord _ induction =>
      intro bindings value bound admits
      unfold Evaluate.program
      refine (fieldPrograms_settles fun field member =>
        (induction field member bound admits).weaken
          fun _ _ => trivial).bind fun _ _ => ?_
      exact settles_pure fun entry => by simp [Program.isEntry] at entry
  | enforceSingle _ induction =>
      intro bindings value bound admits
      unfold Evaluate.program
      exact (required_settles (induction bound admits) fun _ => rfl).weaken
        fun _ _ entry => by simp [Program.isEntry] at entry
  | keyValue _ _ keyInduction valueInduction =>
      intro bindings value bound admits
      unfold Evaluate.program
      refine (keyInduction bound admits).bind fun key _ => ?_
      refine (valueInduction bound admits).bind fun member _ => ?_
      exact settles_pure fun _ => Or.inr ⟨key, member, rfl⟩
  | subquerySink found path _ _ reached infoMember infoType infoChild nextMember
      nextType _ _ nodesMember nodesChild elementType keys _ induction =>
      intro bindings value bound admits
      unfold Evaluate.program
      exact (connection_settles formed conform found (path ▸ reached) infoMember
        infoType infoChild nextMember nextType nodesMember nodesChild
        elementType keys admits).bind fun _ standing =>
        settles_within
          ((induction bound standing).weaken
            fun _ _ entry => by simp [Program.isEntry] at entry)
  | bind _ induction =>
      intro bindings value bound admits
      unfold Evaluate.program
      exact settles_binding (induction (bound.update admits _) admits)
  | @parameter places place extent depth inner known _ induction =>
      intro bindings value bound admits
      unfold Evaluate.program
      refine settles_get.bind fun state same => ?_
      obtain ⟨element, elementBound, conforms⟩ := bound depth place known
      rw [same, elementBound]
      exact induction bound conforms

end Evaluate

namespace TypedSet

theorem Reaches.trans {first second third : TypedSet} {path more : List String}
    (early : first.Reaches path second) (late : second.Reaches more third) :
    first.Reaches (path ++ more) third := by
  induction early with
  | here => exact late
  | fragment member _ induction => exact .fragment member (induction late)
  | field member child _ induction => exact .field member child (induction late)

end TypedSet

namespace Selections

theorem ReachesSet.typed {named : String → Prop} {selections : Selections}
    (formed : WellFormed named selections) {path : List String} {id : SetId}
    (reached : selections.ReachesSet path id) :
    (selections.typed rootId).Reaches path (selections.typed id) := by
  induction reached with
  | root => exact .here
  | @fragment path id inner typeName _ found induction =>
      have member :
          (typeName, selections.typed inner) ∈
            (selections.typed id).fragments := by
        rw [fragments_typed formed]
        exact List.mem_map_of_mem (Entries.mem_of_lookup? found)
      simpa using induction.trans (.fragment member .here)
  | @field path id inner record _ member child induction =>
      have typedMember :
          selections.typedField record ∈ (selections.typed id).fields := by
        rw [fields_typed formed]
        exact List.mem_map_of_mem member
      refine induction.trans (.field typedMember ?_ .here)
      simp [typedField, TypedField.selections, child]

end Selections

/-- The nodes given for each connection are of the type of its nodes. -/
def AllNodes.Fit (nodes : AllNodes) (document : TypedSet)
    (subqueries : List Subquery) :
    Prop :=
  ∀ {id subquery items connection field}, subqueries[id]? = some subquery →
    nodes.lookup? id = some items → document.Reaches subquery.path connection →
      field ∈ connection.fields → field.key = subquery.keys.nodes →
        field.Admits [(field.key, .array items)]

theorem AllNodes.Fit.conform {named : String → Prop} {document : CompileState}
    (formed : document.WellFormed named) {nodes : AllNodes}
    (fit :
      nodes.Fit (document.selections.typed Selections.rootId)
        document.subqueries) :
    AllNodes.Conform document (some nodes) := by
  intro id items subquery set record child lookup found reached member sameKey
    below
  have typedMember : document.selections.typedField record ∈
      (document.selections.typed set).fields := by
    rw [Selections.fields_typed formed.selections]
    exact List.mem_map_of_mem member
  obtain ⟨value, present, admits⟩ := Selections.admits_below below
    (fit found lookup (reached.typed formed.selections) typedMember sameKey)
  have sameValue : value = .array items := by
    simpa [Selections.typedField, TypedField.key, Entries.lookup?]
      using present.symm
  rwa [sameValue] at admits

theorem binding?_initial (data : Json) :
    (EvaluationState.initial data).binding? =
      Function.update (fun _ => none) 0 (some data) := by
  funext depth
  cases depth with
  | zero => rfl
  | succ depth => rfl

/-- The program of a pipeline does not go wrong on a response that conforms to
the document, and misses no parameter on any. -/
theorem compiled_program_safe {pipeline : Pipeline}
    {compiled : CompiledOperation}
    (success : compile pipeline = .ok compiled) :
    ∃ document, pipeline.typedDocument? = some document ∧
      document.erase = compiled.operation.selections ∧
      (∀ data, document.Admits data →
        (∀ error, compiled.program.collect data = .error error →
          error.isRejection = true) ∧
        ∀ nodes : AllNodes, nodes.Fit document compiled.subqueries →
          ∀ error, compiled.program.replay nodes data = .error error →
            error.isRejection = true) ∧
      ∀ data path depth,
        compiled.program.collect data ≠ .error (.unboundParameter path depth) ∧
        ∀ nodes, compiled.program.replay nodes data ≠
          .error (.unboundParameter path depth) := by
  obtain ⟨kind, document, outcome, fits⟩ := fits_of_compile success
  refine ⟨_, outcome.typed, ?_, ?_, ?_⟩
  · rw [Selections.erase_typed, outcome.operation]
    rfl
  · intro data admits
    have bound : Evaluate.Bindings document Places.root
        (EvaluationState.initial data).binding? := by
      rw [binding?_initial]
      refine Evaluate.Bindings.update ?_ admits 0
      intro depth place found
      cases found
    refine ⟨?_, ?_⟩
    · intro error failed
      have noNodes : AllNodes.Conform document none := by
        intro id nodes subquery set record child lookup
        cases lookup
      exact (Evaluate.fits_settles outcome.formed noNodes fits bound
        admits).error rfl (Evaluate.collect_eq_error.mp failed)
    · intro nodes fit error failed
      rw [outcome.subqueries] at fit
      exact (Evaluate.fits_settles outcome.formed (fit.conform outcome.formed)
        fits bound admits).error rfl failed
  · intro data path depth
    have bound : ∀ depth, compiled.program.readsBound depth = true →
        ((EvaluationState.initial data).binding? depth).isSome = true := by
      intro depth reads
      have known := fits.isSome_of_readsBound depth reads
      rw [binding?_initial]
      cases depth with
      | zero => rfl
      | succ depth => cases known
    refine ⟨?_, ?_⟩
    · intro failed
      exact (Evaluate.program_bound none compiled.program _ bound data).error
        rfl (Evaluate.collect_eq_error.mp failed) path depth rfl
    · intro nodes failed
      exact (Evaluate.program_bound (some nodes) compiled.program _ bound
        data).error rfl failed path depth rfl

theorem compile_issueTitles_safe :
    ∃ compiled document, compile Sample.issueTitles = .ok compiled ∧
      Sample.issueTitles.typedDocument? = some document ∧
      (∀ data, document.Admits data → ∀ error,
        compiled.program.collect data = .error error →
          error.isRejection = true) ∧
      ∀ data path depth,
        compiled.program.collect data ≠
          .error (.unboundParameter path depth) := by
  obtain ⟨compiled, success⟩ := Sample.issueTitles_accepted
  obtain ⟨document, typed, _, conforming, bound⟩ :=
    compiled_program_safe success
  exact ⟨compiled, document, success, typed,
    fun data admits => (conforming data admits).1,
    fun data path depth => (bound data path depth).1⟩

end GraphPipeline
