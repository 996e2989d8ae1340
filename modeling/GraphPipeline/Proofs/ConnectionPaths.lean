import GraphPipeline.Proofs.Compile.Sinks
import GraphPipeline.Proofs.PageCompleteness

/-!
# Where connections are

The path of a paginated connection leads to it by response keys alone: no field
on the way is one of lists.  Whenever the evaluation of a program comes to a
sink, it is at the connection this path leads to, however it got there.
-/

namespace GraphPipeline

/-- No field on a response path is one of lists. -/
def TypedSet.ListFree (document : TypedSet) (path : List String) : Prop :=
  ∀ {before key after parent field}, path = before ++ key :: after →
    document.Reaches before parent → field ∈ parent.fields → field.key = key →
      field.type.element? = none

namespace Selections

variable {named : String → Prop} {selections : Selections}

/-- No field that is answered on a response path is one of lists. -/
def ListFree (selections : Selections) (path : List String) : Prop :=
  ∀ {before key after id record}, path = before ++ key :: after →
    selections.spaceAt? (selections.set rootId).keySpace before =
      some (selections.set id).keySpace →
    record ∈ (selections.set id).fields → record.key = key →
      record.type.element? = none

theorem listFree_root (selections : Selections) : selections.ListFree [] := by
  intro before key after id record split
  simp at split

/-- Below a field of another type than a list, what is answered is in no further
list. -/
theorem ListFree.below (formed : WellFormed named selections)
    {path : List String} {id : SetId} {record : FieldRecord}
    (free : selections.ListFree path) (reached : selections.ReachesSet path id)
    (member : record ∈ (selections.set id).fields)
    (single : record.type.element? = none) :
    selections.ListFree (path ++ [record.key]) := by
  intro before key after other found split space otherMember sameKey
  rcases List.eq_nil_or_concat after with rfl | ⟨front, last, rfl⟩
  · obtain ⟨rfl, sameLast⟩ := List.append_inj' split rfl
    obtain rfl : record.key = key := by simpa using sameLast
    have sameSpace := Option.some.inj ((reached.space formed).symm.trans space)
    have sameType :=
      (sameKey_matches formed sameSpace member otherMember sameKey.symm).2
    rw [← sameType]
    exact single
  · rw [List.concat_eq_append, ← List.cons_append, ← List.append_assoc] at split
    exact free (List.append_inj' split rfl).1 space otherMember sameKey

theorem ListFree.typed (formed : WellFormed named selections)
    {path : List String}
    (free : selections.ListFree path) :
    (selections.typed rootId).ListFree path := by
  intro before key after parent field split reaches member sameKey
  obtain ⟨id, rfl, space⟩ := reaches_typed formed reaches rfl
  rw [fields_typed formed] at member
  obtain ⟨record, recorded, rfl⟩ := List.mem_map.mp member
  exact free split space recorded sameKey

end Selections

namespace Program

theorem sinks_guarded (type : TypeRef) (inner : Program) :
    (inner.guarded type).sinks = inner.sinks := by
  unfold guarded
  split <;> rfl

theorem mem_sinksOfFields {fields : List (String × Program)} {sink : Sink} :
    sink ∈ sinksOfFields fields ↔ ∃ field ∈ fields, sink ∈ field.2.sinks := by
  induction fields with
  | nil => simp [sinksOfFields]
  | cons field fields induction => simp [sinksOfFields, induction]

end Program

/-- The objects of the place are in no list, unless it says so. -/
def Place.Unlisted (document : CompileState) (place : Place) : Prop :=
  place.repeated = false →
    document.selections.ReachesSet place.path place.set ∧
      document.selections.ListFree place.path

/-- The sinks of a fitting program are those of connections in no list. -/
theorem Fits.sinks_listFree {named : String → Prop} {document : CompileState}
    (formed : document.WellFormed named) {isOpen : List String → Prop}
    {places : Places} {extent : Extent} {program : Program}
    (fits : Fits document isOpen places extent program) :
    (∀ depth place, places depth = some place → place.Unlisted document) →
      (∀ place, extent = .object place → place.Unlisted document) →
        ∀ sink ∈ program.sinks, ∃ subquery set,
          document.subqueries[sink.1]? = some subquery ∧
          document.selections.ReachesSet subquery.path set ∧
            document.selections.ListFree subquery.path := by
  induction fits with
  | readScalar _ _ _ =>
      intro bound here sink member
      cases member
  | @field places place record set inner recorded child _ _ induction =>
      intro bound here sink member
      rw [Program.sinks, Program.sinks_guarded] at member
      refine induction bound ?_ sink member
      intro inside same single
      cases elementOf : record.type.element? with
      | some element => simp [Extent.of, elementOf] at same
      | none =>
          simp only [Extent.of, elementOf, Extent.object.injEq] at same
          subst inside
          obtain ⟨reached, free⟩ := here place rfl single
          exact ⟨reached.field recorded child,
            free.below formed.selections reached recorded elementOf⟩
  | mapList _ _ induction =>
      intro bound _ sink member
      rw [Program.sinks, Program.sinks_guarded] at member
      refine induction bound ?_ sink member
      intro inside same single
      obtain rfl := Extent.object.inj same
      cases single
  | toDictionary _ _ _ induction =>
      intro bound _ sink member
      rw [Program.sinks, Program.sinks_guarded] at member
      refine induction bound ?_ sink member
      intro inside same single
      obtain rfl := Extent.object.inj same
      cases single
  | @narrow places place typeName mode set inner found _ _ _ induction =>
      intro bound here sink member
      refine induction bound ?_ sink member
      intro inside same single
      obtain rfl := Extent.object.inj same
      obtain ⟨reached, free⟩ := here place rfl single
      exact ⟨reached.fragment found, free⟩
  | buildRecord _ induction =>
      intro bound here sink member
      obtain ⟨field, inside, deeper⟩ := Program.mem_sinksOfFields.mp member
      exact induction field inside bound here sink deeper
  | enforceSingle _ induction => exact induction
  | keyValue _ _ keyInduction valueInduction =>
      intro bound here sink member
      rcases List.mem_append.mp member with inKey | inValue
      · exact keyInduction bound here sink inKey
      · exact valueInduction bound here sink inValue
  | @subquerySink places place id subquery _ _ _ _ _ _ _ inner known path once _
      reached
      _ _ _ _ _ _ _ _ _ _ _ _ induction =>
      intro bound here sink member
      rcases List.mem_cons.mp member with rfl | inside
      · refine ⟨subquery, place.set, known, ?_⟩
        rw [path]
        exact ⟨reached, (here place rfl once).2⟩
      · refine induction bound ?_ sink inside
        intro inside same
        cases same
  | @bind places place depth inner _ induction =>
      intro bound here sink member
      refine induction ?_ here sink member
      intro other known found
      by_cases same : other = depth
      · subst other
        rw [Function.update_self] at found
        obtain rfl := Option.some.inj found
        exact here _ rfl
      · rw [Function.update_of_ne same] at found
        exact bound other known found
  | @parameter places place extent depth inner known _ induction =>
      intro bound _ sink member
      refine induction bound ?_ sink member
      intro inside same
      obtain rfl := Extent.object.inj same
      exact bound depth _ known

/-- The connections of an operation are numbered in order, each one has one
sink, and the sinks are only come to at the connections. -/
structure CompiledOperation.LocatesConnections (document : TypedSet)
    (compiled : CompiledOperation) : Prop where
  numbered :
    compiled.subqueries.map (·.id) = List.range compiled.subqueries.length
  sinks : compiled.program.sinks = compiled.subqueries.map Subquery.sink
  selected :
    ∀ subquery ∈ compiled.subqueries, ∃ set, document.Reaches subquery.path set
  listFree : ∀ subquery ∈ compiled.subqueries, document.ListFree subquery.path
  /-- A connection that the evaluation comes to is the one at its path. -/
  located :
    ∀ given data reading, compiled.program.ReadsData given data reading →
      ∃ subquery, compiled.subqueries[reading.id]? = some subquery ∧
        reading.keys = subquery.keys ∧
          Run.valueAt? subquery.path data = some reading.connection
  /-- The evaluation comes to one connection for each sink, however often. -/
  unique :
    ∀ given data first second, compiled.program.ReadsData given data first →
      compiled.program.ReadsData given data second → first.id = second.id →
        first.connection = second.connection
  /-- The pages of an evaluation are those of the connections at the paths, also
  if the evaluation fails. -/
  recorded :
    ∀ data id page, (compiled.program.reached data).lookup? id = some page →
      ∃ subquery connection path, compiled.subqueries[id]? = some subquery ∧
        Run.valueAt? subquery.path data = some connection ∧
          Page.read connection subquery.keys path = .ok page

/-- A compiled pipeline locates its connections in every response. -/
theorem compiled_locatesConnections {pipeline : Pipeline}
    {compiled : CompiledOperation}
    (success : compile pipeline = .ok compiled) :
    ∃ document, pipeline.typedDocument? = some document ∧
      compiled.LocatesConnections document := by
  obtain ⟨kind, document, outcome, fits⟩ := fits_of_compile success
  have numbered : ∀ {id : SubqueryId} {subquery : Subquery},
      compiled.subqueries[id]? = some subquery → subquery.id = id := by
    intro id subquery found
    rw [outcome.subqueries] at found
    exact (outcome.formed.numbered found).1
  have sinks := Compile.compiled_sinks success
  have located :
      ∀ given data reading, compiled.program.ReadsData given data reading →
        ∃ subquery, compiled.subqueries[reading.id]? = some subquery ∧
          reading.keys = subquery.keys ∧
            Run.valueAt? subquery.path data = some reading.connection := by
    intro given data reading reads
    obtain ⟨subquery, stands⟩ := fits.readsData outcome.formed reads
    refine ⟨subquery, ?_, stands.keys, stands.found⟩
    rw [outcome.subqueries]
    exact stands.known
  have unlisted : ∀ subquery ∈ compiled.subqueries, ∃ set,
      document.selections.ReachesSet subquery.path set ∧
        document.selections.ListFree subquery.path := by
    intro subquery member
    obtain ⟨id, known⟩ := List.getElem?_of_mem member
    have sink : subquery.sink ∈ compiled.program.sinks := by
      rw [sinks]
      exact List.mem_map_of_mem member
    have atRoot : Place.root.Unlisted document := fun _ =>
      ⟨.root, Selections.listFree_root _⟩
    obtain ⟨other, set, found, reached, free⟩ :=
      fits.sinks_listFree outcome.formed (fun depth place bound => by
        cases depth with
        | zero => exact Option.some.inj bound ▸ atRoot
        | succ depth => cases bound)
      (fun place same => Extent.object.inj same ▸ atRoot) subquery.sink sink
    have sameId : subquery.sink.1 = id := numbered known
    rw [sameId, ← outcome.subqueries, known] at found
    obtain rfl := Option.some.inj found
    exact ⟨set, reached, free⟩
  refine ⟨_, outcome.typed, ?_, sinks, ?_, ?_, located, ?_, ?_⟩
  · apply List.ext_getElem?
    intro id
    rw [List.getElem?_map]
    cases known : compiled.subqueries[id]? with
    | none =>
        rw [List.getElem?_eq_none]
        · rfl
        · simpa using List.getElem?_eq_none_iff.mp known
    | some subquery =>
        have inside := (List.getElem?_eq_some_iff.mp known).1
        rw [List.getElem?_range inside, Option.map_some, numbered known]
  · intro subquery member
    obtain ⟨set, reached, _⟩ := unlisted subquery member
    exact ⟨_, reached.typed outcome.formed.selections⟩
  · intro subquery member
    obtain ⟨_, _, free⟩ := unlisted subquery member
    exact free.typed outcome.formed.selections
  · intro given data first second readsFirst readsSecond sameId
    obtain ⟨subquery, known, _, found⟩ := located given data first readsFirst
    obtain ⟨other, otherKnown, _, otherFound⟩ :=
      located given data second readsSecond
    rw [← sameId, known] at otherKnown
    obtain rfl := Option.some.inj otherKnown
    rw [found] at otherFound
    exact Option.some.inj otherFound
  · intro data id page known
    obtain ⟨reading, path, rfl, reads, read⟩ := reached_read fits known
    obtain ⟨subquery, selected, keys, found⟩ := located none data reading reads
    exact ⟨subquery, reading.connection, path, selected, found, keys ▸ read⟩

namespace Sample

/-- Two items, for each of which the others are read. -/
def twoItems : Json :=
  .object [("items", connection (.array [item "a", item "b"])
              [("hasNextPage", .bool false)]), ("others", someOthers)]

def othersReading : Reading :=
  { id := 1, keys := itemsSubquery.keys, connection := someOthers }

/-- The evaluation comes to the others at every item. -/
theorem othersProgram_reads :
    othersProgram.ReadsData none twoItems othersReading := by
  have atItem : ∀ item, Program.Reads none othersReading
      (Function.update (EvaluationState.initial twoItems).binding? 1
        (some twoItems))
      (.buildRecord [("all", .parameter 1 (.field "others"
        (.subquerySink 1 itemsSubquery.keys
          (.mapList 0 (.readScalar "title" title.type)))))]) item :=
    fun item =>
      .member List.mem_cons_self
        (.parameter (Function.update_self _ _ _) (.field rfl .here))
  exact .bind (.member List.mem_cons_self
    (.field rfl (.nodes rfl (.item List.mem_cons_self (atItem _)))))

end Sample

theorem compile_othersOfItems_located :
    ∃ compiled document, compile Sample.othersOfItems = .ok compiled ∧
      compiled.subqueries = [Sample.itemsSubquery, Sample.othersSubquery] ∧
        compiled.program.ReadsData none Sample.twoItems Sample.othersReading ∧
          compiled.LocatesConnections document := by
  have computed : (compile Sample.othersOfItems).map (fun compiled =>
      (compiled.subqueries, compiled.program)) =
      .ok ([Sample.itemsSubquery, Sample.othersSubquery],
           Sample.othersProgram) := by
    cbv
  obtain ⟨compiled, success, facts⟩ := Evaluate.map_eq_ok.mp computed
  obtain ⟨subqueries, program⟩ := Prod.mk.inj facts
  obtain ⟨document, _, locates⟩ := compiled_locatesConnections success
  exact ⟨compiled, document, success, subqueries,
    program ▸ Sample.othersProgram_reads, locates⟩

end GraphPipeline
