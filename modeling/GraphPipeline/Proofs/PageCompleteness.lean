import GraphPipeline.Proofs.Execution.Recording
import GraphPipeline.Proofs.Execution.Sessions
import GraphPipeline.Proofs.Pagination

/-!
# Completeness of pages

A run that succeeds has followed every connection that its first evaluation
comes to until a page said that no other follows, and its result is made from
the nodes of all these pages.  A connection that only the second evaluation
comes to is not followed: it takes the nodes of another connection, followed by
itself, to come to it.
-/

namespace GraphPipeline

namespace Run

variable {σ : Type} {transport : Transport σ} {options : ClientOptions}
  {request : Request}

/-- Nodes are given for exactly the connections that have more pages, namely
those of all their pages. -/
structure Gathers (transport : Transport σ) (options : ClientOptions)
    (request : Request) (session final : Session σ)
    (pending : List (Subquery × Page)) (given : Option AllNodes) : Prop where
  followed : ∀ id nodes, given.bind (·.lookup? id) = some nodes →
    ∃ entry ∈ pending, entry.1.id = id ∧ ∃ later,
      entry.1.FollowedBetween transport options request session final entry.2
        later ∧
        nodes = (entry.2 :: later).flatMap (·.nodes)
  complete :
    ∀ entry ∈ pending, (given.bind (·.lookup? entry.1.id)).isSome = true

/-- The result is that of an evaluation with the nodes of all pages. -/
theorem resolve_gathers {plan : Plan} {data value : Json}
    {session final : Session σ}
    (succeeded : (resolve transport options plan request data).run.run session =
      (.ok value, final)) :
    ∃ first given,
      plan.program.collect data = .ok (first, plan.program.reached data) ∧
      session.Leads transport final ∧
      ((Evaluate.program given plan.program data).result (.initial data)).1 =
        .ok value ∧
      Gathers transport options request session final
        (unfinished plan.subqueries (plan.program.reached data)) given := by
  unfold resolve at succeeded
  obtain ⟨⟨first, pages⟩, start, collecting, rest⟩ := bind_eq_ok succeeded
  obtain ⟨collected, rfl⟩ := liftM_eq_ok collecting
  have collected := extracted_eq_ok.mp collected
  obtain rfl := collected_pages collected
  cases pending : unfinished plan.subqueries (plan.program.reached data) with
  | nil =>
      dsimp only at rest
      rw [pending] at rest
      cases rest
      refine ⟨value, none, collected, .refl,
        (Evaluate.collect_eq_ok.mp collected).1, ?_⟩
      constructor
      · intro id nodes listed
        cases listed
      · intro entry member
        cases member
  | cons entry others =>
      dsimp only at rest
      rw [pending] at rest
      obtain ⟨given, later, followed, replaying⟩ := bind_eq_ok rest
      obtain ⟨replayed, rfl⟩ := liftM_eq_ok replaying
      obtain ⟨leads, gathered, complete⟩ := followAll_follows followed
      exact ⟨first, some given, collected, leads, extracted_eq_ok.mp replayed,
        ⟨gathered, complete⟩⟩

end Run

section

variable {σ : Type} {transport : Transport σ} {options : ClientOptions}
  {named : String → Prop} {document : CompileState}
  {isOpen : List String → Prop} {program : Program} {data value : Json}
  {reading : Reading}

/-- An evaluation that succeeds records the pages of the connections it comes
to. -/
theorem collected_page (formed : document.WellFormed named)
    (fits : Fits document isOpen Places.root (.object Place.root) program)
    {pages : Pages} (collected : program.collect data = .ok (value, pages))
    (reads : program.ReadsData none data reading) :
    ∃ subquery page path, reading.At document isOpen data subquery ∧
      (program.reached data).lookup? reading.id = some page ∧
        Page.read reading.connection reading.keys path = .ok page := by
  have recorded : Evaluate.Recorded reading.id (program.reached data) :=
    ((Evaluate.reads_records reads (fits.bound_root data)).ok rfl
      (Prod.ext (Evaluate.collect_eq_ok.mp collected).1 rfl)).2
  obtain ⟨page, known⟩ := Option.isSome_iff_exists.mp recorded
  obtain ⟨other, path, sameId, otherReads, read⟩ := reached_read fits known
  obtain ⟨subquery, stands⟩ := fits.readsData formed reads
  obtain ⟨otherSubquery, otherStands⟩ := fits.readsData formed otherReads
  have sameSubquery : otherSubquery = subquery := by
    have found := otherStands.known
    rw [sameId, stands.known] at found
    exact (Option.some.inj found).symm
  subst otherSubquery
  have sameConnection : other.connection = reading.connection := by
    have found := otherStands.found
    rw [stands.found] at found
    exact (Option.some.inj found).symm
  refine ⟨subquery, page, path, stands, known, ?_⟩
  rw [stands.keys, ← otherStands.keys, ← sameConnection]
  exact read

/-- A connection of the first evaluation is followed to its end, and all nodes
are read. -/
theorem gathers_complete {request : Request} {session final : Session σ}
    {given : Option AllNodes} (formed : document.WellFormed named)
    (leads : session.Leads transport final)
    (gathers : Run.Gathers transport options request session final
      (Run.unfinished document.subqueries (program.reached data)) given)
    {subquery : Subquery} {page : Page} {path : ResponsePath}
    (stands : reading.At document isOpen data subquery)
    (known : (program.reached data).lookup? reading.id = some page)
    (read : Page.read reading.connection reading.keys path = .ok page) :
    ∃ later,
      subquery.FollowedBetween transport options request session final page
        later ∧
      reading.nodes? given =
        some (.array ((page :: later).flatMap (·.nodes))) := by
  have sameId : subquery.id = reading.id := (formed.numbered stands.known).1
  have pending :
      ∀ entry ∈ Run.unfinished document.subqueries (program.reached data),
        entry.1.id = reading.id →
          entry = (subquery, page) ∧ page.hasNextPage = true := by
    rintro ⟨other, otherPage⟩ member same
    obtain ⟨selected, lookup, more⟩ := Run.mem_unfinished.mp member
    have same : other.id = reading.id := same
    rw [same, known] at lookup
    cases lookup
    obtain ⟨index, found⟩ := List.getElem?_of_mem selected
    have numbered := (formed.numbered found).1
    rw [← numbered, same, stands.known] at found
    cases found
    exact ⟨rfl, more⟩
  cases more : page.hasNextPage with
  | false =>
      have unlisted : given.bind (·.lookup? reading.id) = none := by
        cases listed : given.bind (·.lookup? reading.id) with
        | none => rfl
        | some nodes =>
            obtain ⟨entry, member, same, _⟩ :=
              gathers.followed reading.id nodes listed
            rw [(pending entry member same).2] at more
            cases more
      obtain ⟨member, found, nodes⟩ := Evaluate.nodes_of_page read
      refine ⟨[], Subquery.followedBetween_last more leads, ?_⟩
      simp only [Reading.nodes?, unlisted, found, Option.map_some, nodes,
        List.flatMap_cons, List.flatMap_nil, List.append_nil]
  | true =>
      have member : (subquery, page) ∈
          Run.unfinished document.subqueries (program.reached data) :=
        Run.mem_unfinished.mpr
          ⟨List.mem_of_getElem? stands.known, sameId ▸ known, more⟩
      obtain ⟨nodes, listed⟩ :=
        Option.isSome_iff_exists.mp (gathers.complete _ member)
      have listed : given.bind (·.lookup? reading.id) = some nodes :=
        sameId ▸ listed
      obtain ⟨entry, member, same, later, followed, rfl⟩ :=
        gathers.followed reading.id nodes listed
      obtain ⟨rfl, _⟩ := pending entry member same
      refine ⟨later, followed, ?_⟩
      simp only [Reading.nodes?, listed]

end

/-- A run that gives a value has read all pages of the connections its value is
made from: each was followed from its first page on until a page said that no
other follows, and the nodes that went into the value are those of all these
pages.  The connections are those the first evaluation comes to, which are all
of them unless pages are followed inside of other connections. -/
theorem run_reads_allPages {σ : Type} {pipeline : Pipeline}
    {compiled : CompiledOperation}
    (success : compile pipeline = .ok compiled) {transport : Transport σ}
    {options : ClientOptions} {values : Entries Json} {state : σ} {value : Json}
    (ran : (compiled.plan.run transport options values state).1 = .ok value) :
    ∃ data session given,
      (Run.fetchData transport options.timeout
        (compiled.firstRequest values)).run.run
        { transport := state, sent := [] } = (.ok data, session) ∧
      ((Evaluate.program given compiled.program data).result
        (.initial data)).1 =
        .ok value ∧
      ∀ reading, compiled.program.ReadsData given data reading →
        (compiled.program.isFlat = true ∨
          compiled.program.ReadsData none data reading) →
          ∃ subquery page later path,
            compiled.subqueries[reading.id]? = some subquery ∧
            Page.read reading.connection reading.keys path = .ok page ∧
            subquery.FollowedBetween transport options
              (compiled.firstRequest values)
              session (compiled.plan.run transport options values state).2 page
                later ∧
            (∃ last,
              (page :: later).getLast? = some last ∧ last.hasNextPage = false) ∧
            reading.nodes? given =
              some (.array ((page :: later).flatMap (·.nodes))) := by
  obtain ⟨kind, document, outcome, fits⟩ := fits_of_compile success
  have whole : (Run.plan transport options compiled.plan values).run.run
      { transport := state, sent := [] } =
        (.ok value, (compiled.plan.run transport options values state).2) :=
    Prod.ext ran rfl
  unfold Run.plan at whole
  cases complete :
      Run.missingVariable? compiled.plan.variableDefinitions values with
  | some name =>
      rw [complete] at whole
      cases whole
  | none =>
      rw [complete] at whole
      obtain ⟨data, session, fetched, resolving⟩ := Run.bind_eq_ok whole
      obtain ⟨first, given, collected, leads, evaluated, gathers⟩ :=
        Run.resolve_gathers resolving
      refine ⟨data, session, given, fetched, evaluated, ?_⟩
      intro reading reads reached
      have readsFirst : compiled.program.ReadsData none data reading := by
        rcases reached with flat | readsFirst
        · exact reads.of_isFlat flat
        · exact readsFirst
      have sameSubqueries : compiled.plan.subqueries = document.subqueries :=
        outcome.subqueries
      have gathered :
          Run.Gathers transport options (compiled.firstRequest values) session
            (compiled.plan.run transport options values state).2
            (Run.unfinished document.subqueries (compiled.program.reached data))
            given := by
        rw [← sameSubqueries]
        exact gathers
      obtain ⟨subquery, page, path, stands, known, read⟩ :=
        collected_page outcome.formed fits collected readsFirst
      obtain ⟨later, followed, nodes⟩ :=
        gathers_complete outcome.formed leads gathered stands known read
      have ends : ∃ last, (page :: later).getLast? = some last ∧
          last.hasNextPage = false := by
        obtain ⟨_, _, _, follows, _⟩ := followed
        exact follows.ends
      refine ⟨subquery, page, later, path, ?_, read, followed, ends, nodes⟩
      rw [outcome.subqueries]
      exact stands.known

/-- All pages of the items are read, whatever way the evaluation comes to
them. -/
theorem run_allTitles_complete :
    ∃ compiled data given,
      compile (Sample.allTitles (.root .query) []) = .ok compiled ∧
      (compiled.plan.run Sample.twoPagesTransport Sample.options [] ()).1 =
        .ok (Sample.titled ["a", "b"]) ∧
      ∀ reading,
        compiled.program.ReadsData given data reading → ∃ page later path,
        Page.read reading.connection reading.keys path = .ok page ∧
        reading.nodes? given =
          some (.array ((page :: later).flatMap (·.nodes))) := by
  have computed :
      (compile (Sample.allTitles (.root .query) [])).map Sample.results =
        .ok ([Sample.itemsSubquery], true, none,
          .ok (Sample.titled ["a"], [(0, Sample.firstPage)]),
          .ok (Sample.titled ["a", "b"]),
          .ok (Sample.titled ["a", "b"])) := by
    cbv
  obtain ⟨compiled, success, _, follows⟩ := Sample.follows_of_results computed
  obtain ⟨data, _, given, _, _, complete⟩ :=
    run_reads_allPages success follows.run
  refine ⟨compiled, data, given, success, follows.run, ?_⟩
  intro reading reads
  obtain ⟨_, page, later, path, _, read, _, _, nodes⟩ :=
    complete reading reads (Or.inl follows.paginates.flat)
  exact ⟨page, later, path, read, nodes⟩

namespace Sample

def others : FieldDefinition :=
  { items with name := "others" }

/-- The titles of all others, for every item. -/
def othersOfItems : Pipeline :=
  (Pipeline.root .query).select "q"
    [("rows", ((((Pipeline.parameter "q").property items).allPages
        nodes).selectValue "i"
        ((Pipeline.parameter "i").select "j"
          [("all", titlesOf (((Pipeline.parameter "q").property others).allPages
              nodes))])).toList)]

def othersProgram : Program :=
  .bind 1
    (.buildRecord
      [("rows", .field "items"
          (.subquerySink 0 itemsSubquery.keys
            (.mapList 0
              (.buildRecord
                [("all", .parameter 1
                    (.field "others"
                      (.subquerySink 1 itemsSubquery.keys
                        (.mapList 0 (.readScalar "title" title.type)))))]))))])

def othersSubquery : Subquery :=
  { itemsSubquery with id := 1, variableName := "cursor1", path := ["others"] }

def connection (nodes : Json) (pageInfo : Entries Json) : Json :=
  .object [("nodes", nodes), ("pageInfo", .object pageInfo)]

/-- A page of others, which another one follows. -/
def someOthers : Json :=
  connection (.array [item "c"])
    [("hasNextPage", .bool true), ("endCursor", .string "c")]

/-- The first page of the items is empty, the second one is not. -/
def lateItem (values : Entries Json) : Json :=
  match (Entries.lookup? values "cursor0").bind Json.text? with
  | some _ =>
      .object
        [("items",
          connection (.array [item "a"]) [("hasNextPage", .bool false)]),
         ("others", someOthers)]
  | none =>
      .object [("items", connection .null
          [("hasNextPage", .bool true), ("endCursor", .string "a")]),
        ("others", someOthers)]

def ascii (text : String) : List UInt8 :=
  text.toList.map fun character => UInt8.ofNat character.toNat

def lateItemTransport : Transport Unit := fun request =>
  let items :=
    match (Entries.lookup? request.variableValues "cursor0").bind
        Json.text? with
    | some _ =>
        "\x7b\"nodes\":[\x7b\"title\":\"a\"\x7d]," ++
          "\"pageInfo\":\x7b\"hasNextPage\":false\x7d\x7d"
    | none =>
        "\x7b\"nodes\":null," ++
          "\"pageInfo\":\x7b\"hasNextPage\":true,\"endCursor\":\"a\"\x7d\x7d"
  pure
    { delay := ⟨0⟩
      outcome := .ok
        { status := .ok
          body := ascii ("\x7b\"data\":\x7b\"items\":" ++ items ++
            ",\"others\":\x7b\"nodes\":[\x7b\"title\":\"c\"\x7d]," ++
            "\"pageInfo\":\x7b\"hasNextPage\":true," ++
            "\"endCursor\":\"c\"\x7d\x7d\x7d\x7d") } }

set_option maxRecDepth 8192 in
theorem lateItemTransport_answers : lateItemTransport.Answers ⟨0⟩ lateItem := by
  intro request state
  refine ⟨_, rfl, rfl, ?_⟩
  dsimp only
  unfold lateItem
  split
  · cbv
  · cbv

/-- The empty first page of the items. -/
def noItems : Page :=
  { nodes := [], hasNextPage := true, endCursor := some "a" }

def someOthersPage : Page :=
  { nodes := [item "c"], hasNextPage := true, endCursor := some "c" }

def lateItems : List Json := [item "a"]

def oneOther : Json :=
  .object [("rows", .array [.object [("all", titled ["c"])]])]

theorem items_end : itemsSubquery.Ends lateItem
    (Run.withCursors [itemsSubquery, othersSubquery] []) (options.maxPages - 1)
      noItems
      lateItems := by
  have last : Run.laterPage itemsSubquery (lateItem (Entries.put
      (Run.withCursors [itemsSubquery, othersSubquery] [])
        itemsSubquery.variableName (.string "a"))) =
          .ok { nodes := lateItems, hasNextPage := false,
                endCursor := none } := by
    cbv
  exact .next rfl rfl last (.last rfl)

/-- What a compiled pipeline gives for the first response, and for it with all
items beside it. -/
def lateResults (compiled : CompiledOperation) :=
  (compiled.program, compiled.subqueries,
    Run.missingVariable? compiled.plan.variableDefinitions [],
    compiled.program.collect (compiled.primaryData lateItem []),
    compiled.program.replay [(0, lateItems)] (compiled.primaryData lateItem []))

end Sample

/-- The others are read only by the second evaluation, which comes to them from
the item on the second page: their own second page is never asked for. -/
theorem othersOfItems_truncated :
    ∃ compiled reading, compile Sample.othersOfItems = .ok compiled ∧
      (compiled.plan.run Sample.lateItemTransport Sample.options [] ()).1 =
        .ok Sample.oneOther ∧
      compiled.program.replay [(0, Sample.lateItems)]
        (compiled.primaryData Sample.lateItem []) = .ok Sample.oneOther ∧
      compiled.program.ReadsData (some [(0, Sample.lateItems)])
        (compiled.primaryData Sample.lateItem []) reading ∧
      Page.read reading.connection reading.keys [] = .ok Sample.someOthersPage ∧
      Sample.someOthersPage.hasNextPage = true ∧
      reading.nodes? (some [(0, Sample.lateItems)]) =
        some (.array Sample.someOthersPage.nodes) := by
  have computed : (compile Sample.othersOfItems).map Sample.lateResults =
      .ok (Sample.othersProgram, [Sample.itemsSubquery, Sample.othersSubquery],
           none, .ok (.object [("rows", .array [])], [(0, Sample.noItems)]),
           .ok Sample.oneOther) := by
    cbv
  obtain ⟨compiled, success, facts⟩ := Evaluate.map_eq_ok.mp computed
  simp only [Sample.lateResults, Prod.mk.injEq] at facts
  obtain ⟨program, subqueries, complete, collected, replayed⟩ := facts
  have planned :
      compiled.plan.subqueries =
        [Sample.itemsSubquery, Sample.othersSubquery] := subqueries
  have pending : Run.unfinished compiled.plan.subqueries [(0, Sample.noItems)] =
      [(Sample.itemsSubquery, Sample.noItems)] := by
    rw [planned]
    rfl
  have ends :
      ∀ entry ∈ Run.unfinished compiled.plan.subqueries [(0, Sample.noItems)],
        entry.1.Ends Sample.lateItem
          (Run.withCursors compiled.plan.subqueries [])
          (Sample.options.maxPages - 1) entry.2 Sample.lateItems := by
    rw [pending, planned]
    intro entry member
    obtain rfl := List.mem_singleton.mp member
    exact Sample.items_end
  have followed := Run.resolve_followed Sample.lateItemTransport_answers
    (compiled.firstRequest []) (fun _ => Sample.lateItems) collected
    (by rw [pending]; simp) ends
  have again : compiled.plan.program.replay
      (Run.nodesOf (fun _ => Sample.lateItems)
        [(Sample.itemsSubquery, Sample.noItems)])
      (compiled.primaryData Sample.lateItem []) = .ok Sample.oneOther :=
        replayed
  rw [pending, again] at followed
  have ran :=
    (Run.plan_returns Sample.lateItemTransport_answers complete followed).run ()
  refine ⟨compiled, ⟨1, Sample.itemsSubquery.keys, Sample.someOthers⟩, success,
    ran, replayed, ?_, rfl, rfl, rfl⟩
  unfold Program.ReadsData CompiledOperation.primaryData
  rw [program, subqueries]
  apply Program.Reads.bind
  apply Program.Reads.member List.mem_cons_self
  apply Program.Reads.field rfl
  apply Program.Reads.nodes rfl
  apply Program.Reads.item List.mem_cons_self
  apply Program.Reads.member List.mem_cons_self
  apply Program.Reads.parameter (Function.update_self ..)
  apply Program.Reads.field rfl
  exact Program.Reads.here

end GraphPipeline
