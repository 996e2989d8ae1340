import GraphPipeline.Proofs.Execution.Replay

/-!
# Evaluating merged data

By induction on how a program fits a document: the evaluation that is given all
nodes stays in step with the one of the merged data.  Objects are compared where
they stand, and lists inside of paginated connections as a prefix and the whole.
-/

namespace GraphPipeline

/-- Values of a place in the data and in the merged data, which are the same
inside of lists. -/
structure Place.Meets (document : CompileState) (data merged : Json)
    (place : Place) (value other : Json) : Prop where
  sees : place.Sees document data value
  mergedSees : place.Sees document merged other
  same : place.repeated = true → value = other

theorem Json.Similar.isNull {value other : Json}
    (similar : value.Similar other) :
    value.isNull = other.isNull := by
  rcases similar with rfl | ⟨_, _, rfl, rfl⟩
  · rfl
  · rfl

theorem rel_similar_refl (value : Option Json) :
    Option.Rel Json.Similar value value := by
  cases value with
  | none => exact .none
  | some value => exact .some (.refl value)

namespace Place.Meets

variable {document : CompileState} {pages : Pages}
  {nodes : SubqueryId → List Json} {data merged value other : Json}
  {place : Place}

theorem similar (merges : Merges document pages nodes data merged)
    (meets : place.Meets document data merged value other) :
    value.Similar other := by
  cases single : place.repeated with
  | true => exact Or.inl (meets.same single)
  | false =>
      have related := merges.similar place.path (meets.sees.exposed single)
      rw [meets.sees.found single, meets.mergedSees.found single] at related
      cases related with
      | some similar => exact similar

theorem member (merges : Merges document pages nodes data merged)
    (meets : place.Meets document data merged value other)
    (readable : place.Readable document.IsOpen) (key : String) :
    Option.Rel Json.Similar (value.member? key) (other.member? key) := by
  cases single : place.repeated with
  | true =>
      rw [meets.same single]
      exact rel_similar_refl _
  | false =>
      have isOpen := readable.resolve_left (by simp [single])
      have related := merges.similar (place.path ++ [key]) (isOpen.below key)
      rwa [Run.valueAt?_concat, Run.valueAt?_concat, meets.sees.found single,
        meets.mergedSees.found single] at related

theorem leaf {named : String → Prop} (formed : document.WellFormed named)
    (merges : Merges document pages nodes data merged)
    (meets : place.Meets document data merged value other)
    (readable : place.Readable document.IsOpen) {record : FieldRecord}
    (recorded : record ∈ (document.selections.set place.set).fields)
    (noChild : record.child = none) :
    value.member? record.key = other.member? record.key := by
  cases single : place.repeated with
  | true => rw [meets.same single]
  | false =>
      have isOpen := readable.resolve_left (by simp [single])
      have related :=
        merges.leaf place.path record.key isOpen fun deeper set below =>
        meets.sees.reached.not_below_leaf formed.selections recorded noChild
          below
      rwa [Run.valueAt?_concat, Run.valueAt?_concat, meets.sees.found single,
        meets.mergedSees.found single] at related

theorem below (meets : place.Meets document data merged value other)
    (readable : place.Readable document.IsOpen) {record : FieldRecord}
    {set : SetId}
    (recorded : record ∈ (document.selections.set place.set).fields)
    (child : record.child = some set) {inner otherInner : Json}
    (found : value.member? record.key = some inner)
    (otherFound : other.member? record.key = some otherInner) :
    (place.below record.key set).Meets document data merged inner
      otherInner where
  sees := meets.sees.below readable recorded child found
  mergedSees := meets.mergedSees.below readable recorded child otherFound
  same := by
    intro single
    have values : value = other := meets.same single
    rw [values, otherFound] at found
    exact (Option.some.inj found).symm

theorem item (meets : place.Meets document data merged value other)
    (item : Json) :
    place.inList.Meets document data merged item item where
  sees := meets.sees.inList item
  mergedSees := meets.mergedSees.inList item
  same := fun _ => rfl

theorem fragment (meets : place.Meets document data merged value other)
    {typeName : String} {set : SetId}
    (found :
      Entries.lookup? (document.selections.set place.set).fragments typeName =
        some set) :
    Place.Meets document data merged { place with set } value other where
  sees := meets.sees.fragment found
  mergedSees := meets.mergedSees.fragment found
  same := meets.same

end Place.Meets

/-- Values of an extent in three evaluations.  Where pages are not followed any
more, the early one may see a prefix of a list. -/
def Extent.Meet (document : CompileState) (data merged : Json) (extent : Extent)
    (free : Prop) (early late whole : Json) : Prop :=
  extent.place.Meets document data merged late whole ∧
    (early = late ∨ free ∧ (∃ element place, extent = .items element place) ∧
      ∃ items all, early = .array items ∧ late = .array all ∧ items <+: all)

theorem Extent.Meet.object {document : CompileState} {data merged : Json}
    {place : Place} {free : Prop} {early late whole : Json}
    (meet :
      (Extent.object place).Meet document data merged free early late whole) :
    early = late := by
  rcases meet.2 with same | ⟨_, ⟨_, _, items⟩, _⟩
  · exact same
  · cases items

/-- The values bound at each depth, in the data and in the merged data. -/
def Places.Meet (document : CompileState) (data merged : Json) (places : Places)
    (bindings others : Nat → Option Json) : Prop :=
  ∀ depth place,
    places depth = some place → ∃ value other, bindings depth = some value ∧
    others depth = some other ∧ place.Meets document data merged value other

theorem Places.Meet.update {document : CompileState}
    {data merged value other : Json} {places : Places} {place : Place}
    {bindings others : Nat → Option Json}
    (bound : places.Meet document data merged bindings others)
    (meets : place.Meets document data merged value other) (depth : Nat) :
    Places.Meet document data merged (Function.update places depth (some place))
      (Function.update bindings depth (some value))
      (Function.update others depth (some other)) := by
  intro another found sameFound
  by_cases same : another = depth
  · subst another
    rw [Function.update_self] at sameFound
    obtain rfl := Option.some.inj sameFound
    exact ⟨value, other, Function.update_self .., Function.update_self ..,
      meets⟩
  · rw [Function.update_of_ne same] at sameFound ⊢
    rw [Function.update_of_ne same]
    exact bound another found sameFound

namespace Evaluate

variable {bindings others : Nat → Option Json}
  {paged : Pages → Pages → Pages → Prop}

/-- Results of three evaluations of a program in step. -/
def Alike (program : Program) (first second third : Json) : Prop :=
  second = third ∧ first.Resembles third ∧
    (program.isEntry = true → first.SameEntry third)

theorem alike_null (program : Program) : Alike program .null .null .null :=
  ⟨rfl, Or.inl rfl, fun _ => Or.inl ⟨rfl, rfl⟩⟩

/-- Collections that are no entries are alike if the late and the whole one are
the same. -/
theorem alike_collection {program : Program} {first value : Json}
    (noEntry : program.isEntry = false) (collection : first.isCollection = true)
    (other : value.isCollection = true) : Alike program first value value :=
  ⟨rfl, Or.inr ⟨collection, other⟩,
   fun entry => by rw [noEntry] at entry; cases entry⟩

theorem inStep_guarded {early given : Option AllNodes} {type : TypeRef}
    {inner : Program} {first second third : Json}
    (sameNull : first.isNull = second.isNull)
    (alsoNull : second.isNull = third.isNull)
    (inside :
      InStep bindings others paged (Alike inner) (program early inner first)
        (program given inner second) (program none inner third)) :
    InStep bindings others paged (Alike inner)
      (program early (inner.guarded type) first)
      (program given (inner.guarded type) second)
      (program none (inner.guarded type) third) := by
  unfold Program.guarded
  split
  · unfold program
    rw [sameNull, alsoNull]
    split
    · refine inStep_absent.weaken ?_
      rintro _ _ _ ⟨rfl, rfl, rfl⟩
      exact alike_null inner
    · exact inside
  · exact inside

/-- The ways in which a program can be compared: it follows no pages, or the
early evaluation records them. -/
def Comparable (given early : Option AllNodes)
    (paged : Pages → Pages → Pages → Prop) (program : Program) : Prop :=
  program.sinkFree = true ∨
    (early = none ∧ paged = Pages.SameRecorded given ∧ program.isFlat = true)

theorem Comparable.imp {given early : Option AllNodes} {program inner : Program}
    (comparable : Comparable given early paged program)
    (sinkFree : program.sinkFree = true → inner.sinkFree = true)
    (isFlat : program.isFlat = true → inner.isFlat = true) :
    Comparable given early paged inner := by
  rcases comparable with free | ⟨collects, records, flat⟩
  · exact Or.inl (sinkFree free)
  · exact Or.inr ⟨collects, records, isFlat flat⟩

/-- A program is compared as the one that a check for null is put around. -/
theorem Comparable.unguarded {given early : Option AllNodes}
    {program inner : Program}
    (type : TypeRef) (comparable : Comparable given early paged program)
    (sinkFree : program.sinkFree = (inner.guarded type).sinkFree)
    (isFlat : program.isFlat = (inner.guarded type).isFlat) :
    Comparable given early paged inner := by
  rw [Program.sinkFree_guarded] at sinkFree
  rw [Program.isFlat_guarded] at isFlat
  exact comparable.imp sinkFree.symm.trans isFlat.symm.trans

section

variable {named : String → Prop} {document : CompileState} {pages : Pages}
  {nodes : SubqueryId → List Json} {data merged : Json}
  {given : Option AllNodes}

/-- Lists that the early evaluation may see in part. -/
theorem inStep_listed {extent : Extent} {free : Prop} {early late whole : Json}
    {α : Type} {post : α → α → α → Prop}
    {earlyNext lateNext wholeNext : List Json → Evaluate α}
    (merges : Merges document pages nodes data merged)
    (meet : extent.Meet document data merged free early late whole)
    (next : ∀ items all, items <+: all → (items = all ∨ free) →
      InStep bindings others paged post (earlyNext items) (lateNext all)
        (wholeNext all)) :
    InStep bindings others paged post (itemsOf early >>= earlyNext)
      (itemsOf late >>= lateNext) (itemsOf whole >>= wholeNext) := by
  obtain ⟨meets, shape⟩ := meet
  have similar := meets.similar merges
  by_cases listed : ∃ all, late = .array all
  · obtain ⟨all, rfl⟩ := listed
    obtain rfl : whole = .array all := by
      rcases similar with same | ⟨_, _, isObject, _⟩
      · exact same.symm
      · cases isObject
    have part :
        ∃ items,
          early = .array items ∧ items <+: all ∧ (items = all ∨ free) := by
      rcases shape with rfl | ⟨holds, _, items, _, rfl, same, begins⟩
      · exact ⟨all, rfl, List.prefix_rfl, Or.inl rfl⟩
      · obtain rfl := Json.array.inj same
        exact ⟨items, rfl, begins, Or.inr holds⟩
    obtain ⟨items, rfl, begins, complete⟩ := part
    have same : InStep bindings others paged
        (fun first second third => first = items ∧ second = all ∧ third = all)
        (itemsOf (.array items)) (itemsOf (.array all))
          (itemsOf (.array all)) := inStep_items ⟨rfl, rfl, rfl⟩
    refine same.bind ?_
    rintro _ _ _ ⟨rfl, rfl, rfl⟩
    exact next _ _ begins complete
  · have lateFails : Fails (itemsOf late) := fails_itemsOf fun items same =>
      listed ⟨items, same⟩
    have wholeFails : Fails (itemsOf whole) := by
      refine fails_itemsOf fun items same => ?_
      rcases similar with rfl | ⟨_, _, _, isObject⟩
      · exact listed ⟨items, same⟩
      · rw [isObject] at same
        cases same
    exact inStep_of_late (lateFails.bind _) (wholeFails.bind _)

/-- Wherever the values of the extent meet, the evaluation of the program with
all nodes stays in step with that of the merged data. -/
def KeepsStep (document : CompileState) (data merged : Json)
    (given : Option AllNodes) (places : Places) (extent : Extent)
    (program : Program) : Prop :=
  ∀ (early : Option AllNodes) (paged : Pages → Pages → Pages → Prop)
    (bindings others : Nat → Option Json) (first second third : Json),
    Comparable given early paged program →
      places.Meet document data merged bindings others →
        extent.Meet document data merged (program.sinkFree = true) first second
          third →
          InStep bindings others paged (Alike program)
            (Evaluate.program early program first)
              (Evaluate.program given program second)
            (Evaluate.program none program third)

namespace KeepsStep

variable {places : Places} {place : Place} {extent : Extent} {inner : Program}

theorem readScalar (formed : document.WellFormed named)
    (merges : Merges document pages nodes data merged) {record : FieldRecord}
    (member : record ∈ (document.selections.set place.set).fields)
    (leaf : record.child = none) (readable : place.Readable document.IsOpen) :
    KeepsStep document data merged given places (.object place)
      (.readScalar record.key record.type) := by
  intro early paged bindings others first second third _ _ meet
  obtain rfl := meet.object
  unfold Evaluate.program
  refine (inStep_readLeaf _
    (meet.1.leaf formed merges readable member leaf)).weaken ?_
  rintro _ _ _ ⟨rfl, rfl⟩
  exact ⟨rfl, Or.inl rfl, fun entry => by cases entry⟩

theorem field (merges : Merges document pages nodes data merged)
    {record : FieldRecord} {set : SetId}
    (member : record ∈ (document.selections.set place.set).fields)
    (child : record.child = some set)
    (readable : place.Readable document.IsOpen)
    (inside : KeepsStep document data merged given places
      (Extent.of record.type (place.below record.key set)) inner) :
    KeepsStep document data merged given places (.object place)
      (.field record.key (inner.guarded record.type)) := by
  intro early paged bindings others first second third comparable bound meet
  obtain rfl := meet.object
  have members : InStep bindings others paged
      (fun one two three => one = two ∧ two.Similar three ∧
        (place.below record.key set).Meets document data merged two three)
      (memberOf first record.key) (memberOf first record.key)
      (memberOf third record.key) := by
    apply inStep_memberOf
    have related := meet.1.member merges readable record.key
    generalize found : first.member? record.key = value at related
    generalize otherFound : third.member? record.key = other at related
    cases related with
    | none => exact .none
    | some similar =>
        exact .some ⟨rfl, similar,
          meet.1.below readable member child found otherFound⟩
  unfold Evaluate.program
  refine members.bind ?_
  rintro one _ three ⟨rfl, similar, below⟩
  have shape :
      (Extent.of record.type (place.below record.key set)).Meet document data
        merged (inner.sinkFree = true) one one three := by
    refine ⟨?_, Or.inl rfl⟩
    rw [Extent.place_of]
    exact below
  have kept := inside early paged bindings others one one three
    (comparable.unguarded record.type rfl rfl) bound shape
  refine (inStep_within (inStep_guarded rfl similar.isNull kept)).weaken ?_
  rintro _ _ _ ⟨same, resembles, entry⟩
  exact ⟨same, resembles, fun isEntry => entry (by
    simpa only [Program.isEntry, isEntry_guarded] using isEntry)⟩

/-- Inside of lists nothing differs between the data and the merged data. -/
theorem item {element : TypeRef}
    (inside :
      KeepsStep document data merged given places (.object place.inList) inner)
    {early : Option AllNodes} {value other : Json}
    (comparable : Comparable given early paged inner)
    (bound : places.Meet document data merged bindings others)
    (meets : place.Meets document data merged value other) (item : Json) :
    InStep bindings others paged (Alike inner)
      (Evaluate.program early (inner.guarded element) item)
      (Evaluate.program given (inner.guarded element) item)
      (Evaluate.program none (inner.guarded element) item) :=
  inStep_guarded rfl rfl
    (inside early paged bindings others item item item comparable bound
      ⟨meets.item item, Or.inl rfl⟩)

theorem mapList (merges : Merges document pages nodes data merged)
    {element : TypeRef} {filters : Nat}
    (inside :
      KeepsStep document data merged given places (.object place.inList)
        inner) :
    KeepsStep document data merged given places (.items element place)
      (.mapList filters (inner.guarded element)) := by
  intro early paged bindings others first second third comparable bound meet
  have each : ∀ early paged, Comparable given early paged inner → ∀ item,
      InStep bindings others paged Agreed
        (Evaluate.program early (inner.guarded element) item)
        (Evaluate.program given (inner.guarded element) item)
        (Evaluate.program none (inner.guarded element) item) :=
    fun _ _ comparable item =>
      (inside.item comparable bound meet.1 item).weaken
        fun _ _ _ alike => alike.1
  have innerComparable := comparable.unguarded element rfl rfl
  unfold Evaluate.program
  refine inStep_listed merges meet fun items all begins complete => ?_
  have outputs : InStep bindings others paged Agreed
      (mapItems filters (Evaluate.program early (inner.guarded element)) items
        0)
      (mapItems filters (Evaluate.program given (inner.guarded element)) all 0)
      (mapItems filters (Evaluate.program none (inner.guarded element)) all
        0) := by
    rcases complete with rfl | free
    · exact inStep_mapItems
        (fun item _ => each early paged innerComparable item) 0
    · have innerFree := (Program.sinkFree_guarded element inner).symm.trans free
      exact inStep_mapItems_prefix begins
        (fun item _ => each early paged innerComparable item)
        (fun item _ paged => each given paged (Or.inl innerFree) item) 0
  refine (inStep_isolated outputs).bind ?_
  rintro _ _ _ rfl
  exact inStep_pure (alike_collection rfl rfl rfl)

theorem toDictionary (merges : Merges document pages nodes data merged)
    {element : TypeRef}
    (shape : inner.isEntry = true)
    (inside :
      KeepsStep document data merged given places (.object place.inList)
        inner) :
    KeepsStep document data merged given places (.items element place)
      (.toDictionary (inner.guarded element)) := by
  intro early paged bindings others first second third comparable bound meet
  have each : ∀ early paged, Comparable given early paged inner → ∀ item,
      InStep bindings others paged
        (fun first second third => second = third ∧ first.SameEntry third)
        (Evaluate.program early (inner.guarded element) item)
        (Evaluate.program given (inner.guarded element) item)
        (Evaluate.program none (inner.guarded element) item) :=
    fun _ _ comparable item => (inside.item comparable bound meet.1 item).weaken
      fun _ _ _ alike => ⟨alike.1, alike.2.2 shape⟩
  have innerComparable := comparable.unguarded element rfl rfl
  unfold Evaluate.program
  refine inStep_listed merges meet fun items all begins complete => ?_
  have dictionaries : InStep bindings others paged Agreed
      (addEntries (Evaluate.program early (inner.guarded element)) items 0 [])
      (addEntries (Evaluate.program given (inner.guarded element)) all 0 [])
      (addEntries (Evaluate.program none (inner.guarded element)) all 0
        []) := by
    rcases complete with rfl | free
    · exact (inStep_addEntries
        (fun item _ => each early paged innerComparable item) 0
        ⟨rfl, fun _ => rfl⟩).weaken fun _ _ _ same => same.1
    · have innerFree := (Program.sinkFree_guarded element inner).symm.trans free
      exact inStep_addEntries_prefix begins
        (fun item _ => each early paged innerComparable item)
        (fun item _ paged => each given paged (Or.inl innerFree) item) 0
        ⟨rfl, fun _ => rfl⟩
  refine dictionaries.bind ?_
  rintro _ _ _ rfl
  exact inStep_pure (alike_collection rfl rfl rfl)

theorem narrow (merges : Merges document pages nodes data merged)
    {typeName : String} {mode : NarrowingMode} {set : SetId}
    (found :
      Entries.lookup? (document.selections.set place.set).fragments typeName =
        some set)
    (readable : place.Readable document.IsOpen)
    (inside :
      KeepsStep document data merged given places (.object { place with set })
        inner) :
    KeepsStep document data merged given places (.object place)
      (.narrow typeName mode inner) := by
  intro early paged bindings others first second third comparable bound meet
  obtain rfl := meet.object
  have kept := inside early paged bindings others first first third
    (comparable.imp (fun free => free) fun flat => flat) bound
    ⟨meet.1.fragment found, Or.inl rfl⟩
  have typename := meet.1.member merges readable typenameKey
  have sameType : (first.member? typenameKey).bind Json.text? =
      (third.member? typenameKey).bind Json.text? := by
    generalize first.member? typenameKey = value at typename
    generalize third.member? typenameKey = other at typename
    cases typename with
    | none => rfl
    | some similar =>
        rcases similar with rfl | ⟨_, _, rfl, rfl⟩
        · rfl
        · rfl
  unfold Evaluate.program
  exact inStep_narrowed (meet.1.similar merges).isNull sameType (alike_null _)
    kept

theorem buildRecord {fields : List (String × Program)}
    (each : ∀ field ∈ fields,
      KeepsStep document data merged given places (.object place) field.2) :
    KeepsStep document data merged given places (.object place)
      (.buildRecord fields) := by
  intro early paged bindings others first second third comparable bound meet
  obtain rfl := meet.object
  have members :
      InStep bindings others paged Agreed (fieldPrograms early fields first)
        (fieldPrograms given fields first)
        (fieldPrograms none fields third) := by
    refine inStep_fieldPrograms fun field member => ?_
    have kept := each field member early paged bindings others first first third
      (comparable.imp
        (fun free => Program.sinkFreeFields_iff.mp free field member)
        fun flat => Program.isFlatFields_iff.mp flat field member) bound
      ⟨meet.1, Or.inl rfl⟩
    exact kept.weaken fun _ _ _ alike => alike.1
  unfold Evaluate.program
  refine members.bind ?_
  rintro _ _ _ rfl
  exact inStep_pure (alike_collection rfl rfl rfl)

theorem enforceSingle
    (inside : KeepsStep document data merged given places extent inner) :
    KeepsStep document data merged given places extent
      (.enforceSingle inner) := by
  intro early paged bindings others first second third comparable bound meet
  have kept := inside early paged bindings others first second third
    (comparable.imp (fun free => free) fun flat => flat) bound meet
  unfold Evaluate.program
  refine (inStep_required kept
    fun _ _ _ alike => ⟨alike.2.1.isNull, alike.1⟩).weaken ?_
  rintro _ _ _ ⟨same, resembles, _⟩
  exact ⟨same, resembles, fun entry => by cases entry⟩

theorem keyValue {key value : Program}
    (keyKeeps : KeepsStep document data merged given places (.object place) key)
    (valueKeeps :
      KeepsStep document data merged given places (.object place) value) :
    KeepsStep document data merged given places (.object place)
      (.keyValue key value) := by
  intro early paged bindings others first second third comparable bound meet
  obtain rfl := meet.object
  have keyed := keyKeeps early paged bindings others first first third
    (comparable.imp (fun free => (Bool.and_eq_true_iff.mp free).1)
      fun flat => (Bool.and_eq_true_iff.mp flat).1) bound ⟨meet.1, Or.inl rfl⟩
  have valued := valueKeeps early paged bindings others first first third
    (comparable.imp (fun free => (Bool.and_eq_true_iff.mp free).2)
      fun flat => (Bool.and_eq_true_iff.mp flat).2) bound ⟨meet.1, Or.inl rfl⟩
  unfold Evaluate.program
  refine keyed.bind ?_
  rintro firstKey _ key ⟨rfl, resembles, _⟩
  refine valued.bind ?_
  rintro firstValue _ value ⟨rfl, _⟩
  exact inStep_pure ⟨rfl, Or.inr ⟨rfl, rfl⟩,
    fun _ => Or.inr ⟨firstKey, firstValue, _, _, rfl, rfl, resembles⟩⟩

/-- The early evaluation may read a part of the nodes that are read from the
merged data. -/
theorem subquerySink (merges : Merges document pages nodes data merged)
    (supplies : Supplies pages nodes given) {id : SubqueryId}
    {subquery : Subquery} {nodesRecord : FieldRecord} {set : SetId}
    {element : TypeRef}
    (found : document.subqueries[id]? = some subquery)
    (path : subquery.path = place.path) (once : place.repeated = false)
    (followed : document.IsExposed subquery.path → subquery.Followed document)
    (reached : document.selections.ReachesSet place.path place.set)
    (nodesMember : nodesRecord ∈ (document.selections.set place.set).fields)
    (nodesChild : nodesRecord.child = some set)
    (inside : KeepsStep document data merged given places
      (.items element (place.below nodesRecord.key set).inList) inner) :
    KeepsStep document data merged given places (.object place)
      (.subquerySink id subquery.keys inner) := by
  intro early paged bindings others first second third comparable bound meet
  obtain rfl := meet.object
  obtain ⟨rfl, rfl, flat⟩ := comparable.resolve_left fun free => by cases free
  have meets : place.Meets document data merged first third := meet.1
  have nodesRead : InStep bindings others (Pages.SameRecorded given)
      (fun one two three => two = three ∧ (one = two ∨
        ∃ items all, one = .array items ∧ two = .array all ∧ items <+: all))
      (nodesOf none id subquery.keys first)
        (nodesOf given id subquery.keys first)
      (nodesOf none id subquery.keys third) :=
    inStep_nodesOf merges supplies found
      (followed (path ▸ meets.sees.exposed once)) (path ▸ meets.sees.found once)
      (path ▸ meets.mergedSees.found once)
  unfold Evaluate.program
  refine nodesRead.bind ?_
  rintro one two _ ⟨rfl, shape⟩
  have below :
      document.selections.ReachesSet
        (place.below nodesRecord.key set).inList.path
        (place.below nodesRecord.key set).inList.set :=
    .field reached nodesMember nodesChild
  have listed :
      (place.below nodesRecord.key set).inList.Meets document data merged two
      two :=
    ⟨.of_repeated below rfl two, .of_repeated below rfl two, fun _ => rfl⟩
  refine (inStep_within
    (inside none _ bindings others one two two (Or.inl flat) bound
      ⟨listed, ?_⟩)).weaken ?_
  · exact shape.imp_right fun part => ⟨flat, ⟨_, _, rfl⟩, part⟩
  · rintro _ _ _ ⟨same, resembles, _⟩
    exact ⟨same, resembles, fun entry => by cases entry⟩

theorem bind {depth : Nat}
    (inside : KeepsStep document data merged given
      (Function.update places depth (some place)) (.object place) inner) :
    KeepsStep document data merged given places (.object place)
      (.bind depth inner) := by
  intro early paged bindings others first second third comparable bound meet
  obtain rfl := meet.object
  unfold Evaluate.program
  exact inStep_binding (inside early paged _ _ first first third
    (comparable.imp (fun free => free) fun flat => flat)
      (bound.update meet.1 depth)
    ⟨meet.1, Or.inl rfl⟩)

theorem parameter {depth : Nat} (known : places depth = some place)
    (inside :
      KeepsStep document data merged given places (.object place) inner) :
    KeepsStep document data merged given places extent
      (.parameter depth inner) := by
  intro early paged bindings others first second third comparable bound meet
  unfold Evaluate.program
  refine inStep_get.bind fun one two three abreast => ?_
  obtain ⟨value, other, boundValue, boundOther, meets⟩ :=
    bound depth place known
  rw [abreast.earlyBindings, abreast.lateBindings, abreast.wholeBindings,
    boundValue, boundOther]
  exact inside early paged bindings others value value other
    (comparable.imp (fun free => free) fun flat => flat) bound
      ⟨meets, Or.inl rfl⟩

end KeepsStep

/-- The evaluation of a fitting program with all nodes stays in step with that
of the merged data. -/
theorem fits_inStep (formed : document.WellFormed named)
    (merges : Merges document pages nodes data merged)
    (supplies : Supplies pages nodes given) {places : Places} {extent : Extent}
    {program : Program}
    (fits : Fits document document.IsOpen places extent program) :
    KeepsStep document data merged given places extent program := by
  induction fits with
  | readScalar member leaf readable =>
    exact .readScalar formed merges member leaf readable
  | field member child readable _ induction =>
      exact .field merges member child readable induction
  | mapList _ _ induction => exact .mapList merges induction
  | toDictionary _ shape _ induction =>
    exact .toDictionary merges shape induction
  | narrow found _ readable _ induction =>
    exact .narrow merges found readable induction
  | buildRecord _ induction => exact .buildRecord induction
  | enforceSingle _ induction => exact .enforceSingle induction
  | keyValue _ _ keyInduction valueInduction =>
      exact .keyValue keyInduction valueInduction
  | subquerySink found path once cursor reached infoMember infoType _ _ _ _ _
      nodesMember nodesChild elementType keys _ induction =>
      refine .subquerySink merges supplies found path once (fun exposed => ?_)
        reached nodesMember nodesChild induction
      exact Subquery.followed_of_selected formed exposed (path ▸ reached)
        (path ▸ cursor) infoMember infoType nodesMember elementType keys
  | bind _ induction => exact .bind induction
  | parameter known _ induction => exact .parameter known induction

end

end Evaluate

end GraphPipeline
