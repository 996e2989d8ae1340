import GraphPipeline.Fetch
import GraphPipeline.Proofs.Execution.Following
import GraphPipeline.Proofs.Execution.MergedEvaluation

/-!
# Pagination

The result of a run is that of one evaluation of the first response with all
nodes of its paginated connections: following pages loses no node, and changes
no order.
-/

namespace GraphPipeline

theorem collect_eq (program : Program) (data : Json) :
    program.collect data =
      ((Evaluate.program none program data).result
        (.initial data)).1.map fun value =>
        (value, program.reached data) :=
  rfl

theorem collected_pages {program : Program} {data value : Json} {pages : Pages}
    (collected : program.collect data = .ok (value, pages)) :
    program.reached data = pages := by
  rw [collect_eq] at collected
  cases result :
      ((Evaluate.program none program data).result (.initial data)).1 with
  | error error =>
      rw [result] at collected
      cases collected
  | ok other =>
      rw [result] at collected
      cases collected
      rfl

namespace Run

theorem mem_unfinished {subqueries : List Subquery} {pages : Pages}
    {subquery : Subquery} {page : Page} :
    (subquery, page) ∈ unfinished subqueries pages ↔
      subquery ∈ subqueries ∧ pages.lookup? subquery.id = some page ∧
        page.hasNextPage = true := by
  simp only [unfinished, List.mem_filterMap, Option.map_eq_some_iff,
    Option.filter_eq_some_iff, Prod.mk.injEq]
  constructor
  · rintro ⟨_, member, _, ⟨known, more⟩, rfl, rfl⟩
    exact ⟨member, known, more⟩
  · rintro ⟨member, known, more⟩
    exact ⟨subquery, member, page, ⟨known, more⟩, rfl, rfl⟩

end Run

section

variable {named : String → Prop} {document : CompileState} {data : Json}
  {pages : Pages} {nodes : SubqueryId → List Json}
  {answer : Entries Json → Json} {values : Entries Json} {budget : Nat}

/-- The nodes of a connection that has no more pages are those of the first
one. -/
theorem Pages.Located.supplies (formed : document.WellFormed named)
    (located : pages.Located document data)
    (ends : ∀ subquery ∈ document.subqueries, ∀ page,
      pages.lookup? subquery.id = some page →
        subquery.Ends answer values budget page (nodes subquery.id))
    {given : Option AllNodes}
    (listed : ∀ id items, given.bind (·.lookup? id) = some items →
      (pages.lookup? id).isSome = true ∧ items = nodes id)
    (pending : ∀ entry ∈ Run.unfinished document.subqueries pages,
      (given.bind (·.lookup? entry.1.id)).isSome = true) :
    Evaluate.Supplies pages nodes given := by
  have known : ∀ id page, pages.lookup? id = some page →
      ∃ subquery ∈ document.subqueries, subquery.id = id ∧
        subquery.Ends answer values budget page (nodes id) := by
    intro id page found
    obtain ⟨subquery, _, _, at_id, _⟩ := located id page found
    have same := (formed.numbered at_id).1
    have member := List.mem_of_getElem? at_id
    subst id
    exact ⟨subquery, member, rfl, ends subquery member page found⟩
  constructor
  · exact listed
  · intro id page found unlisted
    obtain ⟨subquery, member, rfl, ending⟩ := known id page found
    apply ending.finished
    cases more : page.hasNextPage with
    | false => rfl
    | true =>
        have given :=
          pending (subquery, page)
            (Run.mem_unfinished.mpr ⟨member, found, more⟩)
        rw [unlisted] at given
        cases given
  · intro id page found
    obtain ⟨_, _, _, ending⟩ := known id page found
    exact ending.begins

theorem lookup?_nodesOf {pending : List (Subquery × Page)} {id : SubqueryId}
    {items : List Json}
    (found : (Run.nodesOf nodes pending).lookup? id = some items) :
    items = nodes id ∧ ∃ entry ∈ pending, entry.1.id = id := by
  simp only [AllNodes.lookup?, Run.nodesOf, Option.map_eq_some_iff] at found
  obtain ⟨_, found, rfl⟩ := found
  obtain ⟨entry, member, rfl⟩ :=
    List.mem_map.mp (List.mem_of_find?_eq_some found)
  have same : entry.1.id = id := by simpa using List.find?_some found
  exact ⟨by rw [same], entry, member, same⟩

theorem isSome_lookup?_nodesOf {pending : List (Subquery × Page)}
    {entry : Subquery × Page}
    (member : entry ∈ pending) :
    ((Run.nodesOf nodes pending).lookup? entry.1.id).isSome = true := by
  simp only [AllNodes.lookup?, Run.nodesOf, Option.isSome_map,
    List.find?_isSome]
  exact ⟨_, List.mem_map_of_mem member, by simp⟩

end

theorem Places.meet_root (document : CompileState) (data merged : Json) :
    Place.root.Meets document data merged data merged ∧
      Places.root.Meet document data merged
        (EvaluationState.initial data).binding?
        (EvaluationState.initial merged).binding? := by
  have sees : ∀ data, Place.root.Sees document data data := by
    intro data
    exact
      { reached := .root
        exposed := fun _ => document.isOpen_root.exposed
        found := fun _ => rfl }
  have meets : Place.root.Meets document data merged data merged := by
    refine ⟨sees data, sees merged, fun repeated => ?_⟩
    cases repeated
  refine ⟨meets, ?_⟩
  rw [binding?_initial, binding?_initial]
  exact Places.Meet.update (fun depth place found => by cases found) meets 0

/-- The evaluations of the data, of the data with all nodes beside them, and of
the merged data are in step from the beginning. -/
theorem evaluations_inStep {named : String → Prop} {document : CompileState}
    (formed : document.WellFormed named) {program : Program}
    (fits :
      Fits document document.IsOpen Places.root (.object Place.root) program)
    (flat : program.isFlat = true) {data merged : Json}
    {nodes : SubqueryId → List Json} {given : Option AllNodes}
    (supplies : Evaluate.Supplies (program.reached data) nodes given)
    (merging :
      (program.reached data).merge nodes document.subqueries data = merged) :
    Evaluate.Outcomes
      (Evaluate.Abreast (EvaluationState.initial data).binding?
        (EvaluationState.initial merged).binding? (Pages.SameRecorded given))
      (Evaluate.Alike program)
        ((Evaluate.program none program data).result (.initial data))
      ((Evaluate.program given program data).result (.initial data))
      ((Evaluate.program none program merged).result (.initial merged)) := by
  subst merged
  have merges : Merges document (program.reached data) nodes data _ :=
    merge_merges formed (reached_located formed fits data)
  obtain ⟨meets, bound⟩ := Places.meet_root document data
    ((program.reached data).merge nodes document.subqueries data)
  apply Evaluate.fits_inStep formed merges supplies fits none _ _ _ data data _
    (Or.inr ⟨rfl, rfl, flat⟩) bound ⟨meets, Or.inl rfl⟩
  exact
    { earlyBindings := rfl
      lateBindings := rfl
      wholeBindings := rfl
      pending := rfl
      rejected := rfl
      pages := ⟨fun _ => rfl, fun _ _ => rfl⟩ }

theorem collect_succeeds_iff {program : Program} {data value : Json} :
    (∃ pages, program.collect data = .ok (value, pages)) ↔
      ((Evaluate.program none program data).result (.initial data)).1 =
        .ok value := by
  rw [collect_eq]
  cases ((Evaluate.program none program data).result (.initial data)).1 with
  | error error => simp [Except.map]
  | ok other => simp [Except.map]

namespace Evaluate.Outcomes

variable {α : Type}
  {abreast : EvaluationState → EvaluationState → EvaluationState → Prop}
  {post : α → α → α → Prop}
  {early late whole : Except ExtractionError α × EvaluationState}

/-- Where the early evaluation fails, the whole one does. -/
theorem whole_fails (outcomes : Outcomes abreast post early late whole)
    {error : ExtractionError} (failed : early.1 = .error error) (value : α) :
    whole.1 ≠ .ok value := by
  intro succeeded
  cases outcomes with
  | ok _ _ => cases failed
  | early => cases succeeded
  | late => cases succeeded

/-- Where the early evaluation succeeds, the late one and the whole one have the
same values. -/
theorem late_eq_whole (outcomes : Outcomes abreast post early late whole)
    (agree : ∀ first second third, post first second third → second = third)
    {first : α}
    (succeeded : early.1 = .ok first) (value : α) :
    late.1 = .ok value ↔ whole.1 = .ok value := by
  cases outcomes with
  | ok holds _ => rw [agree _ _ _ holds]
  | early => cases succeeded
  | late => simp

end Evaluate.Outcomes

section

variable {σ : Type} {named : String → Prop} {document : CompileState}
  {program : Program} {transport : Transport σ} {options : ClientOptions}
  {answer : Entries Json → Json} {nodes : SubqueryId → List Json}
  {data merged : Json}

/-- What follows from the data of a first response is what one evaluation of the
merged data gives. -/
theorem resolve_transparent (request : Request)
    (formed : document.WellFormed named)
    (fits :
      Fits document document.IsOpen Places.root (.object Place.root) program)
    (flat : program.isFlat = true)
    (answers : transport.Answers options.timeout answer)
    (merging :
      (program.reached data).merge nodes document.subqueries data = merged)
    (ends : ∀ subquery ∈ document.subqueries, ∀ page,
      (program.reached data).lookup? subquery.id = some page →
        subquery.Ends answer request.variableValues (options.maxPages - 1) page
          (nodes subquery.id))
    {plan : Plan} (sameProgram : plan.program = program)
    (sameSubqueries : plan.subqueries = document.subqueries) :
    ∃ outcome,
      Run.Returns (Run.resolve transport options plan request data) outcome ∧
      ∀ value, outcome = .ok value ↔
        ∃ pages, program.collect merged = .ok (value, pages) := by
  subst program
  have located := reached_located formed fits data
  have inStep :
      ∀ given, Evaluate.Supplies (plan.program.reached data) nodes given → _ :=
    fun given supplies => evaluations_inStep formed fits flat supplies merging
  have pendingEnds :
      ∀ entry ∈ Run.unfinished plan.subqueries (plan.program.reached data),
        entry.1.Ends answer request.variableValues (options.maxPages - 1)
          entry.2 (nodes entry.1.id) := by
    rintro ⟨subquery, page⟩ member
    obtain ⟨member, known, _⟩ := Run.mem_unfinished.mp member
    exact ends subquery (sameSubqueries ▸ member) page known
  have suppliesAll : Evaluate.Supplies (plan.program.reached data) nodes
      (some (Run.nodesOf nodes
        (Run.unfinished plan.subqueries (plan.program.reached data)))) := by
    apply located.supplies formed ends
    · intro id items listed
      obtain ⟨same, ⟨subquery, page⟩, member, rfl⟩ := lookup?_nodesOf listed
      obtain ⟨_, known, _⟩ := Run.mem_unfinished.mp member
      exact ⟨by rw [known]; rfl, same⟩
    · intro entry member
      rw [← sameSubqueries] at member
      exact isSome_lookup?_nodesOf member
  have collected := collect_eq plan.program data
  cases first :
      ((Evaluate.program none plan.program data).result (.initial data)).1 with
  | error error =>
      rw [first] at collected
      refine ⟨_, Run.resolve_failed collected request, fun value => ?_⟩
      rw [collect_succeeds_iff]
      have fails := (inStep _ suppliesAll).whole_fails first value
      constructor
      · intro absurd
        cases absurd
      · intro succeeded
        exact absurd succeeded fails
  | ok value =>
      rw [first] at collected
      by_cases finished :
          Run.unfinished plan.subqueries (plan.program.reached data) = []
      · have supplies :
            Evaluate.Supplies (plan.program.reached data) nodes none := by
          apply located.supplies formed ends
          · intro id items listed
            cases listed
          · intro entry member
            rw [← sameSubqueries, finished] at member
            cases member
        refine ⟨_, Run.resolve_finished collected finished request,
          fun other => ?_⟩
        rw [collect_succeeds_iff, ← (inStep none supplies).late_eq_whole
          (fun _ _ _ alike => alike.1) first other, first]
        simp
      · refine ⟨_, Run.resolve_followed answers request nodes collected finished
            pendingEnds, fun other => ?_⟩
        rw [collect_succeeds_iff, Run.extracted_eq_ok]
        exact (inStep _ suppliesAll).late_eq_whole (fun _ _ _ alike => alike.1)
          first other

end

theorem Run.Returns.run {σ : Type} {transport : Transport σ}
    {options : ClientOptions} {plan : Plan} {values : Entries Json}
    {outcome : Except ExecutionError Json}
    (returns : Run.Returns (Run.plan transport options plan values) outcome)
    (state : σ) :
    (plan.run transport options values state).1 = outcome := by
  obtain ⟨later, same⟩ := returns { transport := state, sent := [] }
  unfold Plan.run
  rw [same]

namespace CompiledOperation

variable {σ : Type} (compiled : CompiledOperation)
  (answer : Entries Json → Json) (values : Entries Json)
  (nodes : SubqueryId → List Json)

/-- The data of the first response. -/
def primaryData : Json :=
  answer (Run.withCursors compiled.subqueries values)

/-- The data of the first response, with the nodes of all pages. -/
def mergedData : Json :=
  (compiled.program.reached (compiled.primaryData answer values)).merge nodes
    compiled.subqueries (compiled.primaryData answer values)

/-- No pages are followed inside of each other, every request is answered, and
the pages of every connection that is reached come to an end within the
limit. -/
structure Paginates (transport : Transport σ) (options : ClientOptions) :
    Prop where
  flat : compiled.program.isFlat = true
  answers : transport.Answers options.timeout answer
  ends : ∀ subquery ∈ compiled.subqueries, ∀ page,
    (compiled.program.reached (compiled.primaryData answer values)).lookup?
      subquery.id =
      some page →
        subquery.Ends answer (Run.withCursors compiled.subqueries values)
          (options.maxPages - 1) page (nodes subquery.id)

end CompiledOperation

/-- A run has a result exactly if every required variable has a value, and
evaluating the first response with the nodes of all pages has this result. -/
theorem pagination_transparent {σ : Type} {pipeline : Pipeline}
    {compiled : CompiledOperation}
    (success : compile pipeline = .ok compiled)
    (plain : pipeline.EachField (CompileState.IsPlain compiled.subqueries))
    {transport : Transport σ} {options : ClientOptions}
    {answer : Entries Json → Json} {values : Entries Json}
    {nodes : SubqueryId → List Json}
    (paginates : compiled.Paginates answer values nodes transport options)
    (state : σ) (value : Json) :
    (compiled.plan.run transport options values state).1 = .ok value ↔
      Run.missingVariable? compiled.plan.variableDefinitions values = none ∧
        ∃ pages,
          compiled.program.collect (compiled.mergedData answer values nodes) =
          .ok (value, pages) := by
  have names : Compile.PageNames fun _ => True := ⟨trivial, trivial, trivial⟩
  obtain ⟨kind, document, outcome⟩ :=
    Compile.outcome_of_compile names (pipeline.eachField fun _ _ => trivial)
      success
  have same : compiled.subqueries = document.subqueries := outcome.subqueries
  have samePlan : compiled.plan.subqueries = document.subqueries := same
  rw [same] at plain
  have fits :=
    fits_of_outcome outcome (CompileState.opens_isOpen outcome.formed) plain
      document.isOpen_root
  cases complete :
      Run.missingVariable? compiled.plan.variableDefinitions values with
  | some name =>
      rw [(Run.plan_refuses complete).run]
      simp
  | none =>
      have merging :
          (compiled.program.reached (compiled.primaryData answer values)).merge
            nodes document.subqueries (compiled.primaryData answer values) =
            compiled.mergedData answer values nodes := by
        rw [← same]
        rfl
      obtain ⟨result, resolves, equivalent⟩ := resolve_transparent
        { query := compiled.plan.query
          variableValues := Run.withCursors compiled.subqueries values }
        outcome.formed fits paginates.flat paginates.answers merging
        (same ▸ paginates.ends) rfl samePlan
      rw [(Run.plan_returns paginates.answers complete resolves).run,
        equivalent]
      simp

namespace Sample

def items : FieldDefinition :=
  { name := "items"
    type := (TypeRef.object "ItemConnection").nonNull
    arguments :=
      [⟨"first", TypeRef.scalar .int⟩, ⟨"after", TypeRef.scalar .string⟩] }

def nodes : FieldDefinition :=
  { name := "nodes", type := (TypeRef.object "Item").nonNull.listOf,
    arguments := [] }

def titlesOf (items : Pipeline) : Pipeline :=
  (items.selectValue "item" ((Pipeline.parameter "item").property title)).toList

def allTitles (source : Pipeline) (arguments : List Argument) : Pipeline :=
  titlesOf ((source.call items arguments).allPages nodes)

/-- The titles on all pages of the items, and those on the one page of a
field. -/
def allAndShown (allArguments : List Argument) (shown : FieldDefinition)
    (arguments : List Argument) : Pipeline :=
  (Pipeline.root .query).select "query"
    [("all", allTitles (.parameter "query") allArguments),
      ("shown",
        titlesOf
          (((Pipeline.parameter "query").call shown arguments).property nodes))]

def item (title : String) : Json :=
  .object [("title", .string title)]

def page (title : String) (pageInfo : Entries Json) : Json :=
  .object [("items",
    .object [("nodes", .array [item title]), ("pageInfo", .object pageInfo)])]

/-- Two pages of items, the second one after the cursor of the first one. -/
def twoPages (values : Entries Json) : Json :=
  match (Entries.lookup? values "cursor0").bind Json.text? with
  | some _ => page "b" [("hasNextPage", .bool false)]
  | none => page "a" [("hasNextPage", .bool true), ("endCursor", .string "a")]

def body (title pageInfo : String) : List UInt8 :=
  ("\x7b\"data\":\x7b\"items\":\x7b\"nodes\":[\x7b\"title\":\"" ++ title ++
    "\"\x7d],\"pageInfo\":\x7b" ++ pageInfo ++ "\x7d\x7d\x7d\x7d").toUTF8.toList

def twoPagesTransport : Transport Unit := fun request =>
  pure
    { delay := ⟨0⟩
      outcome := .ok
        { status := .ok
          body :=
            match (Entries.lookup? request.variableValues "cursor0").bind
              Json.text? with
            | some _ => body "b" "\"hasNextPage\":false"
            | none => body "a" "\"hasNextPage\":true,\"endCursor\":\"a\"" } }

theorem twoPagesTransport_answers : twoPagesTransport.Answers ⟨0⟩ twoPages := by
  intro request state
  refine ⟨_, rfl, rfl, ?_⟩
  unfold twoPages
  dsimp only
  split
  · cbv
  · cbv

def options : ClientOptions :=
  { timeout := ⟨0⟩, maxPages := 2, concurrentHandles := 1 }

def itemsSubquery : Subquery :=
  { id := 0
    variableName := "cursor0"
    initialCursor := none
    path := ["items"]
    keys := ⟨"nodes", "pageInfo", "hasNextPage", "endCursor"⟩ }

def firstPage : Page :=
  { nodes := [item "a"], hasNextPage := true, endCursor := some "a" }

def allItems : List Json := [item "a", item "b"]

theorem itemsSubquery_ends : itemsSubquery.Ends twoPages
    (Run.withCursors [itemsSubquery] []) (options.maxPages - 1) firstPage
      allItems := by
  have last : Run.laterPage itemsSubquery (twoPages (Entries.put
      (Run.withCursors [itemsSubquery] []) itemsSubquery.variableName
        (.string "a"))) =
        .ok { nodes := [item "b"], hasNextPage := false,
              endCursor := none } := by
    cbv
  exact .next rfl rfl last (.last rfl)

def titled (titles : List String) : Json :=
  .array (titles.map .string)

/-- What a compiled pipeline gives: for the first response, for the merged data,
and for the first response with all nodes beside it. -/
def results (compiled : CompiledOperation) :=
  (compiled.subqueries, compiled.program.isFlat,
    Run.missingVariable? compiled.plan.variableDefinitions [],
    compiled.program.collect (compiled.primaryData twoPages []),
    ((Evaluate.program none compiled.program
      (compiled.mergedData twoPages [] fun _ => allItems)).result
        (.initial (compiled.mergedData twoPages [] fun _ => allItems))).1,
    compiled.program.replay [(0, allItems)] (compiled.primaryData twoPages []))

/-- Only the pages of the items are followed: the value of the merged data, and
the value of a run. -/
structure Follows (compiled : CompiledOperation) (whole run : Json) : Prop where
  paginates :
    compiled.Paginates twoPages [] (fun _ => allItems) twoPagesTransport options
  complete : Run.missingVariable? compiled.plan.variableDefinitions [] = none
  whole : ∃ pages, compiled.program.collect
    (compiled.mergedData twoPages [] fun _ => allItems) = .ok (whole, pages)
  run : (compiled.plan.run twoPagesTransport options [] ()).1 = .ok run

theorem follows_of_results {pipeline : Pipeline} {first whole run : Json}
    (given : (compile pipeline).map results = .ok ([itemsSubquery], true, none,
      .ok (first, [(0, firstPage)]), .ok whole, .ok run)) :
    ∃ compiled,
      compile pipeline = .ok compiled ∧ compiled.subqueries = [itemsSubquery] ∧
      Follows compiled whole run := by
  cases success : compile pipeline with
  | error error =>
      rw [success] at given
      cases given
  | ok compiled =>
      rw [success] at given
      simp only [results, Except.map, Except.ok.injEq, Prod.mk.injEq] at given
      obtain ⟨subqueries, flat, complete, collected, evaluated, replayed⟩ :=
        given
      have reached := collected_pages collected
      have pending : Run.unfinished compiled.plan.subqueries [(0, firstPage)] =
          [(itemsSubquery, firstPage)] := by
        have planned : compiled.plan.subqueries = [itemsSubquery] := subqueries
        rw [planned]
        rfl
      refine ⟨compiled, rfl, subqueries, ?_⟩
      constructor
      · refine ⟨flat, twoPagesTransport_answers, ?_⟩
        rw [reached, subqueries]
        intro subquery member page known
        obtain rfl := List.mem_singleton.mp member
        have same : some firstPage = some page := known
        obtain rfl := Option.some.inj same
        exact itemsSubquery_ends
      · exact complete
      · exact collect_succeeds_iff.mpr evaluated
      · apply Run.Returns.run
        apply Run.plan_returns twoPagesTransport_answers complete
        have ends :
            ∀ entry ∈ Run.unfinished compiled.plan.subqueries [(0, firstPage)],
              entry.1.Ends twoPages (Run.withCursors compiled.subqueries [])
                (options.maxPages - 1) entry.2 allItems := by
          rw [pending, subqueries]
          intro entry member
          obtain rfl := List.mem_singleton.mp member
          exact itemsSubquery_ends
        have followed := Run.resolve_followed twoPagesTransport_answers
          { query := compiled.plan.query
            variableValues := Run.withCursors compiled.subqueries [] }
          (fun _ => allItems) collected (by rw [pending]; simp) ends
        have replay : compiled.plan.program.replay
            (Run.nodesOf (fun _ => allItems) [(itemsSubquery, firstPage)])
            (compiled.primaryData twoPages []) = .ok run := replayed
        rw [pending, replay] at followed
        exact followed

/-- A pipeline whose run has another value than the merged data. -/
def Misread (pipeline : Pipeline) : Prop :=
  ∃ compiled whole run, compile pipeline = .ok compiled ∧
    compiled.subqueries = [itemsSubquery] ∧ Follows compiled whole run ∧
      whole ≠ run

theorem misread_of_results {pipeline : Pipeline}
    (given : (compile pipeline).map results = .ok ([itemsSubquery], true, none,
      .ok (.object [("all", titled ["a"]), ("shown", titled ["a"])],
           [(0, firstPage)]),
      .ok (.object [("all", titled ["a", "b"]), ("shown", titled ["a", "b"])]),
      .ok (.object [("all", titled ["a", "b"]), ("shown", titled ["a"])]))) :
    Misread pipeline := by
  obtain ⟨compiled, success, subqueries, follows⟩ := follows_of_results given
  refine ⟨compiled, _, _, success, subqueries, follows, ?_⟩
  simp [titled]

end Sample

theorem pagination_allTitles :
    ∃ compiled,
      compile (Sample.allTitles (.root .query)
        [⟨"first", .literal (.number (.integer 1))⟩]) =
        .ok compiled ∧
      compiled.Paginates Sample.twoPages [] (fun _ => Sample.allItems)
        Sample.twoPagesTransport Sample.options ∧
      (compiled.plan.run Sample.twoPagesTransport Sample.options [] ()).1 =
        .ok (Sample.titled ["a", "b"]) := by
  have given : (compile (Sample.allTitles (.root .query)
      [⟨"first", .literal (.number (.integer 1))⟩])).map Sample.results =
        .ok ([Sample.itemsSubquery], true, none,
          .ok (Sample.titled ["a"], [(0, Sample.firstPage)]),
          .ok (Sample.titled ["a", "b"]),
          .ok (Sample.titled ["a", "b"])) := by
    cbv
  obtain ⟨compiled, success, subqueries, follows⟩ :=
    Sample.follows_of_results given
  have plain : Pipeline.EachField (CompileState.IsPlain compiled.subqueries)
      (Sample.allTitles (.root .query)
        [⟨"first", .literal (.number (.integer 1))⟩]) := by
    rw [subqueries]
    decide +kernel
  refine ⟨compiled, success, follows.paginates, ?_⟩
  exact (pagination_transparent success plain follows.paginates () _).mpr
    ⟨follows.complete, follows.whole⟩

/-- A cursor variable that a caller writes, in an enumeration value, a variable
or the name of a field, is mistaken for the one of a paginated connection. -/
theorem written_cursors_misread :
    Sample.Misread (Sample.allAndShown [] Sample.items
        [⟨"after", .enumeration "$cursor0"⟩]) ∧
      Sample.Misread
        (Sample.allAndShown [⟨"first", .variableRef "count"⟩] Sample.items
        [⟨"first", .variableRef "count, after: $cursor0"⟩]) ∧
      Sample.Misread (Sample.allAndShown []
        { Sample.items with name := "items(after: $cursor0)" } []) := by
  refine ⟨?_, ?_, ?_⟩
  · apply Sample.misread_of_results
    cbv
  · apply Sample.misread_of_results
    cbv
  · apply Sample.misread_of_results
    cbv

end GraphPipeline
