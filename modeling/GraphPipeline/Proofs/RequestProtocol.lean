import GraphPipeline.Proofs.Execution.Histories
import GraphPipeline.Proofs.Execution.OneByOne

/-!
# The requests of a run

A run sends its document with the initial cursors, and then once for every
further page of a connection.  Several connections are asked for pages at the
same time, in any order.  The requests of a run differ in their cursors alone,
and their number is limited whatever comes in reply.
-/

namespace GraphPipeline

/-! ### Values of the variables -/

section values

variable {subqueries : List Subquery}

/-- The value of a cursor variable in the first request. -/
def Subquery.initialValue (subquery : Subquery) : Json :=
  (subquery.initialCursor.map Json.string).getD .null

namespace Run

theorem withCursors_cons (subquery : Subquery) (values : Entries Json) :
    withCursors (subquery :: subqueries) values =
      withCursors subqueries
        (Entries.put values subquery.variableName subquery.initialValue) :=
  rfl

theorem lookup?_withCursors_other {values : Entries Json} {name : String}
    (other : ∀ subquery ∈ subqueries, subquery.variableName ≠ name) :
    Entries.lookup? (withCursors subqueries values) name =
      Entries.lookup? values name := by
  induction subqueries generalizing values with
  | nil => rfl
  | cons subquery subqueries induction =>
      have others :=
        fun later member => other later (List.mem_cons_of_mem subquery member)
      rw [withCursors_cons, induction others,
        Entries.lookup?_put_other _ _ (other subquery List.mem_cons_self)]

/-- Every connection starts at its initial cursor. -/
theorem lookup?_withCursors {values : Entries Json}
    (distinct : (subqueries.map (·.variableName)).Nodup) {subquery : Subquery}
    (member : subquery ∈ subqueries) :
    Entries.lookup? (withCursors subqueries values) subquery.variableName =
      some subquery.initialValue := by
  induction subqueries generalizing values with
  | nil => cases member
  | cons first subqueries induction =>
      obtain ⟨fresh, distinct⟩ := List.nodup_cons.mp distinct
      rw [withCursors_cons]
      rcases List.mem_cons.mp member with rfl | later
      · have others :
            ∀ other ∈ subqueries, other.variableName ≠ subquery.variableName :=
          fun other inside same =>
            fresh (List.mem_map.mpr ⟨other, inside, same⟩)
        rw [lookup?_withCursors_other others, Entries.lookup?_put_same]
      · exact induction distinct later

/-- A required variable has a value unless a run is refused. -/
theorem given_of_complete {definitions : List VariableDefinition}
    {values : Entries Json}
    (complete : missingVariable? definitions values = none)
    {definition : VariableDefinition} (member : definition ∈ definitions)
    (required : definition.isRequired = true) :
    ∃ value, Entries.lookup? values definition.name = some value ∧
      value.isNull = false := by
  unfold missingVariable? at complete
  rw [Option.map_eq_none_iff, List.find?_eq_none] at complete
  have given := complete definition member
  cases found : Entries.lookup? values definition.name with
  | none => simp [required, found] at given
  | some value => exact ⟨value, rfl, by simpa [required, found] using given⟩

end Run

end values

section atCursor

variable (request : Request) (subquery : Subquery) (cursor : String)

theorem Request.lookup?_atCursor :
    Entries.lookup? (request.atCursor subquery cursor).variableValues
      subquery.variableName = some (.string cursor) :=
  Entries.lookup?_put_same _ _ _

theorem Request.lookup?_atCursor_other {name : String}
    (other : subquery.variableName ≠ name) :
    Entries.lookup? (request.atCursor subquery cursor).variableValues name =
      Entries.lookup? request.variableValues name :=
  Entries.lookup?_put_other _ _ other

end atCursor

namespace CompiledOperation

variable {compiled : CompiledOperation}

theorem HasCursors.distinct (cursors : compiled.HasCursors) :
    (compiled.subqueries.map (·.variableName)).Nodup := by
  have named : compiled.subqueries.map (·.variableName) =
      (compiled.subqueries.map (·.id)).map CompileState.cursorName := by
    rw [List.map_map]
    apply List.map_congr_left
    intro subquery member
    obtain ⟨index, found⟩ := List.mem_iff_getElem?.mp member
    obtain ⟨sameId, sameName⟩ := cursors.numbered found
    rw [sameName, Function.comp_apply, sameId]
  rw [named]
  exact cursors.nodup_ids.map fun _ _ => CompileState.cursorName_injective

/-! ### Requests that are sent -/

/-- A request holds the document, a value for every variable that needs one,
and a value for every cursor. -/
structure Carries (compiled : CompiledOperation) (request : Request) :
    Prop where
  query : request.query = compiled.queryText
  required : ∀ definition ∈ compiled.operation.variableDefinitions,
    definition.isRequired = true →
      ∃ value,
        Entries.lookup? request.variableValues definition.name = some value ∧
          value.isNull = false
  cursors : ∀ subquery ∈ compiled.subqueries,
    (Entries.lookup? request.variableValues
      subquery.variableName).isSome = true

section

variable {values : Entries Json} {pipeline : Pipeline}
  (success : compile pipeline = .ok compiled)
include success

/-- Every connection starts at its first cursor. -/
theorem firstRequest_starts {subquery : Subquery}
    (member : subquery ∈ compiled.subqueries) :
    Entries.lookup? (compiled.firstRequest values).variableValues
      subquery.variableName = some subquery.initialValue :=
  Run.lookup?_withCursors (hasCursors_of_compile success).distinct member

theorem firstRequest_carries
    (complete : Run.missingVariable? compiled.plan.variableDefinitions values =
      none) :
    compiled.Carries (compiled.firstRequest values) := by
  have cursors := hasCursors_of_compile success
  refine ⟨rfl, ?_, ?_⟩
  · intro definition declared required
    have others : ∀ subquery ∈ compiled.subqueries,
        subquery.variableName ≠ definition.name := by
      intro subquery paginated same
      rw [cursors.optional definition declared subquery paginated
        same.symm] at required
      cases required
    obtain ⟨value, given, present⟩ :=
      Run.given_of_complete complete declared required
    exact ⟨value, (Run.lookup?_withCursors_other others).trans given, present⟩
  · intro subquery paginated
    rw [firstRequest_starts success paginated]
    rfl

/-- Another cursor of a connection leaves the other variables as they are. -/
theorem Carries.atCursor {request : Request}
    (carries : compiled.Carries request)
    {subquery : Subquery} (paginated : subquery ∈ compiled.subqueries)
    (cursor : String) :
    compiled.Carries (request.atCursor subquery cursor) := by
  refine ⟨carries.query, ?_, ?_⟩
  · intro definition declared required
    have other : subquery.variableName ≠ definition.name := by
      intro same
      rw [(hasCursors_of_compile success).optional definition declared subquery
        paginated same.symm] at required
      cases required
    rw [Request.lookup?_atCursor_other _ _ _ other]
    exact carries.required definition declared required
  · intro known listed
    by_cases same : subquery.variableName = known.variableName
    · rw [← same, Request.lookup?_atCursor]
      rfl
    · rw [Request.lookup?_atCursor_other _ _ _ same]
      exact carries.cursors known listed

end

end CompiledOperation

namespace FollowUps

variable {state : FollowUps}

theorem length_sentFor (id : SubqueryId) :
    (state.sentFor id).length = (state.sent.map (·.1)).count id := by
  rw [sentFor, List.length_map, List.count, List.countP_map,
    List.countP_eq_length_filter]
  rfl

/-- If each connection is asked for few pages, few requests are sent. -/
theorem length_sent_le {ids : List SubqueryId} {bound : Nat}
    (known : ∀ entry ∈ state.sent, entry.1 ∈ ids)
    (few : ∀ id ∈ ids, (state.sentFor id).length ≤ bound) :
    state.sent.length ≤ ids.length * bound := by
  have asked : ∀ {id}, id ∈ (state.sent.map (·.1)).dedup → id ∈ ids := by
    intro id member
    obtain ⟨entry, inside, rfl⟩ := List.mem_map.mp (List.mem_dedup.mp member)
    exact known entry inside
  have fewer : (state.sent.map (·.1)).dedup.length ≤ ids.length :=
    (List.subperm_of_subset (List.nodup_dedup _) fun _ => asked).length_le
  have each : ∀ number ∈ (state.sent.map (·.1)).dedup.map
      fun id => (state.sent.map (·.1)).count id, number ≤ bound := by
    intro number member
    obtain ⟨id, inside, rfl⟩ := List.mem_map.mp member
    exact length_sentFor id ▸ few id (asked inside)
  calc
    state.sent.length
      = ((state.sent.map (·.1)).dedup.map
          fun id => (state.sent.map (·.1)).count id).sum := by
        rw [List.sum_map_count_dedup_eq_length, List.length_map]
    _ ≤ (state.sent.map (·.1)).dedup.length * bound := by
        simpa using List.sum_le_card_nsmul _ _ each
    _ ≤ ids.length * bound := Nat.mul_le_mul_right bound fewer

end FollowUps

namespace CompiledOperation

/-! ### The protocol -/

section

variable (compiled : CompiledOperation) (options : ClientOptions)
  (values : Entries Json)

/-- What holds while connections are followed. -/
structure Proceeds (data : Json) (state : FollowUps) : Prop where
  /-- Every request holds the document and all values. -/
  carries : ∀ entry ∈ state.sent, compiled.Carries entry.2
  /-- It is about one of the connections. -/
  known : ∀ entry ∈ state.sent,
    ∃ subquery ∈ compiled.subqueries, subquery.id = entry.1
  /-- It holds what the first request does, but for the cursor of this
  connection, which is the end cursor of the page before. -/
  asks : ∀ subquery ∈ compiled.subqueries, ∀ number request,
    (state.sentFor subquery.id)[number]? = some request →
      ∃ page cursor,
        compiled.PageAt options data state subquery number page ∧
          page.hasNextPage = true ∧ page.endCursor = some cursor ∧
          Entries.lookup? request.variableValues subquery.variableName =
            some (.string cursor) ∧
          ∀ name, subquery.variableName ≠ name →
            Entries.lookup? request.variableValues name =
              Entries.lookup? (compiled.firstRequest values).variableValues name
  /-- A connection is asked for a limited number of pages. -/
  few : ∀ subquery ∈ compiled.subqueries,
    (state.sentFor subquery.id).length ≤ max 1 options.maxPages - 1
  bounded : state.sent.length ≤
    compiled.subqueries.length * (max 1 options.maxPages - 1)
  /-- A connection whose last page is within the limit does not fail. -/
  accepts : ∀ subquery ∈ compiled.subqueries, ∀ number page,
    compiled.PageAt options data state subquery number page →
      number < max 1 options.maxPages ∧
        (page.hasNextPage = false →
          ∀ error, state.failure ≠ some (subquery.id, error))
  /-- It goes on until all connections are at their ends or one has failed. -/
  continues : state.Ended ∨
    ∃ next, state.Step Request.AnyReply options (compiled.firstRequest values)
      next

/-- All pages of a connection are read, and their nodes are known. -/
structure Covers (data : Json) (state : FollowUps) (subquery : Subquery)
    (read : List Page) : Prop where
  pages : ∀ number page,
    compiled.PageAt options data state subquery number page ↔
      read[number]? = some page
  last : ∃ page, read.getLast? = some page ∧ page.hasNextPage = false
  within : read.length ≤ max 1 options.maxPages
  nodes : state.finished.lookup? subquery.id = some (read.flatMap (·.nodes))

/-- What holds of the requests of every run, whatever comes in reply. -/
structure KeepsProtocol : Prop where
  /-- Nothing is sent as long as a required variable has no value. -/
  refuses : ∀ name reply state outcome,
    Run.missingVariable? compiled.plan.variableDefinitions values = some name →
      compiled.Runs Request.AnyReply options values reply state outcome →
        outcome = .error (.missingVariable name) ∧
          compiled.requests values reply state = []
  /-- The first request holds the document, the first cursors, and otherwise
  what the run is given. -/
  carries :
    Run.missingVariable? compiled.plan.variableDefinitions values = none →
      compiled.Carries (compiled.firstRequest values)
  starts : ∀ subquery ∈ compiled.subqueries,
    Entries.lookup? (compiled.firstRequest values).variableValues
      subquery.variableName = some subquery.initialValue
  passes : ∀ name,
    (∀ subquery ∈ compiled.subqueries, subquery.variableName ≠ name) →
      Entries.lookup? (compiled.firstRequest values).variableValues name =
        Entries.lookup? values name
  /-- The other requests are for further pages of connections. -/
  proceeds : ∀ reply data value pages state,
    compiled.Begins Request.AnyReply options values reply data value pages →
      compiled.FollowsUp Request.AnyReply options values pages state →
        compiled.Proceeds options values data state
  /-- No run goes on for ever. -/
  endless : ∀ reply data value pages (chain : Nat → FollowUps),
    compiled.Begins Request.AnyReply options values reply data value pages →
      compiled.FollowsUp Request.AnyReply options values pages (chain 0) →
        ¬ ∀ number, (chain number).Step Request.AnyReply options
          (compiled.firstRequest values) (chain (number + 1))
  bounded : ∀ reply state outcome,
    compiled.Runs Request.AnyReply options values reply state outcome →
      (compiled.requests values reply state).length ≤
        1 + compiled.subqueries.length * (max 1 options.maxPages - 1)
  /-- The first evaluation is the result if no connection it comes to has more
  pages. -/
  finishes : ∀ reply data value pages state outcome,
    compiled.Begins Request.AnyReply options values reply data value pages →
      compiled.Runs Request.AnyReply options values (some reply) state outcome →
      (∀ subquery ∈ compiled.subqueries, ∀ page,
        compiled.PageAt options data state subquery 0 page →
          page.hasNextPage = false) →
      outcome = .ok value ∧ state.sent = []
  /-- Otherwise the result is that of the second evaluation, with the nodes of
  all pages, if no connection has failed. -/
  completes : ∀ reply data value pages state outcome subquery first,
    compiled.Begins Request.AnyReply options values reply data value pages →
      compiled.Runs Request.AnyReply options values (some reply) state outcome →
      state.failure = none → subquery ∈ compiled.subqueries →
      compiled.PageAt options data state subquery 0 first →
      first.hasNextPage = true →
      outcome =
          Run.extracted (compiled.program.replay state.finished data) ∧
        ∃ read, compiled.Covers options data state subquery read
  /-- The limit is exceeded if the last page within it says that another one
  follows, unless another connection fails before. -/
  exceeds : ∀ reply state outcome id limit,
    compiled.Runs Request.AnyReply options values reply state outcome →
      (outcome = .error (.pageLimitExceeded id limit) ↔
        limit = options.maxPages ∧ ∃ first data value pages subquery page,
          reply = some first ∧
          compiled.Begins Request.AnyReply options values first data value
            pages ∧
          subquery ∈ compiled.subqueries ∧ subquery.id = id ∧
          compiled.PageAt options data state subquery
            (max 1 options.maxPages - 1) page ∧
          page.hasNextPage = true ∧
          ∀ other error, state.failure = some (other, error) → other = id)
  /-- A transport that replies at once gives one of these runs. -/
  oneByOne : ∀ {σ : Type} (transport : Transport σ) (state : σ),
    ∃ reply followUps,
      compiled.Runs Request.AnyReply options values reply followUps
        (compiled.plan.run transport options values state).1 ∧
      (compiled.plan.run transport options values state).2.sent =
        compiled.requests values reply followUps

end

section

variable {compiled : CompiledOperation} {options : ClientOptions}
  {values : Entries Json} {replies : Request → Reply → Prop} {reply : Reply}
  {data value : Json} {pages : Pages} {state : FollowUps}
  {outcome : Except ExecutionError Json}

/-- A run that begins well follows the connections with more pages. -/
theorem Begins.concludes
    (begins : compiled.Begins replies options values reply data value pages)
    (runs : compiled.Runs replies options values (some reply) state outcome) :
    compiled.FollowsUp replies options values pages state ∧ state.Ended ∧
      outcome = compiled.conclusion data value pages state := by
  cases runs with
  | unanswered _ _ failed =>
      rw [begins.answered] at failed
      cases failed
  | unevaluated _ _ answered failed =>
      rw [begins.answered] at answered
      obtain rfl := Except.ok.inj answered
      rw [begins.collected] at failed
      cases failed
  | followed other follows ended =>
      have answered := other.answered
      rw [begins.answered] at answered
      obtain rfl := Except.ok.inj answered
      have collected := other.collected
      rw [begins.collected] at collected
      obtain ⟨rfl, rfl⟩ := Prod.mk.inj (Except.ok.inj collected)
      exact ⟨follows, ended, rfl⟩

/-- A run that sends its first request has all values it needs. -/
theorem Runs.complete
    (runs : compiled.Runs replies options values (some reply) state outcome) :
    Run.missingVariable? compiled.plan.variableDefinitions values = none := by
  cases runs with
  | unanswered complete _ _ => exact complete
  | unevaluated complete _ _ _ => exact complete
  | followed begins _ _ => exact begins.complete

/-- Every request is the first one at a cursor of some connection that has more
pages. -/
theorem FollowsUp.mem_sent
    (follows : compiled.FollowsUp replies options values pages state)
    {entry : SubqueryId × Request} (member : entry ∈ state.sent) :
    ∃ subquery ∈ compiled.subqueries, ∃ page cursor, subquery.id = entry.1 ∧
      pages.lookup? subquery.id = some page ∧ page.hasNextPage = true ∧
        entry.2 = (compiled.firstRequest values).atCursor subquery cursor := by
  obtain ⟨subquery, page, cursor, waits, same, request⟩ :=
    (FollowUps.Reaches.concerns follows).sent entry member
  obtain ⟨known, found, more⟩ := Run.mem_unfinished.mp waits
  exact ⟨subquery, known, page, cursor, same, found, more, request⟩

/-- Every request is the first one, or the first one at another cursor. -/
theorem Runs.mem_requests {reply : Option Reply} {request : Request}
    (runs : compiled.Runs replies options values reply state outcome)
    (member : request ∈ compiled.requests values reply state) :
    request = compiled.firstRequest values ∨
      ∃ subquery ∈ compiled.subqueries, ∃ cursor,
        request = (compiled.firstRequest values).atCursor subquery cursor := by
  cases runs with
  | refused _ => cases member
  | unanswered _ _ _ => exact Or.inl (List.mem_singleton.mp member)
  | unevaluated _ _ _ _ => exact Or.inl (List.mem_singleton.mp member)
  | followed _ follows _ =>
      rcases List.mem_cons.mp member with first | later
      · exact Or.inl first
      · obtain ⟨entry, inside, rfl⟩ := List.mem_map.mp later
        obtain ⟨subquery, listed, _, cursor, _, _, _, same⟩ :=
          follows.mem_sent inside
        exact Or.inr ⟨subquery, listed, cursor, same⟩

variable {pipeline : Pipeline} (success : compile pipeline = .ok compiled)
include success

theorem proceeds
    (begins : compiled.Begins Request.AnyReply options values reply data value
      pages)
    (follows : compiled.FollowsUp Request.AnyReply options values pages state) :
    compiled.Proceeds options values data state := by
  have carries := firstRequest_carries success begins.complete
  have known : ∀ entry ∈ state.sent,
      ∃ subquery ∈ compiled.subqueries, subquery.id = entry.1 := by
    intro entry member
    obtain ⟨subquery, listed, _, _, same, _⟩ := follows.mem_sent member
    exact ⟨subquery, listed, same⟩
  have few : ∀ subquery ∈ compiled.subqueries,
      (state.sentFor subquery.id).length ≤ max 1 options.maxPages - 1 :=
    fun _ listed => sentFor_few success begins.collected follows listed
  constructor
  case carries =>
    intro entry member
    obtain ⟨subquery, listed, _, cursor, _, _, _, same⟩ :=
      follows.mem_sent member
    exact same ▸ carries.atCursor success listed cursor
  case known => exact known
  case asks =>
    intro subquery listed number request found
    have sent : state.sentFor subquery.id ≠ [] :=
      List.ne_nil_of_mem (List.mem_of_getElem? found)
    obtain ⟨first, comes⟩ :=
      begun_of_sent success begins.collected follows listed sent
    obtain ⟨handle, later, received, rfl, own, pageAt, _⟩ :=
      history success begins.collected follows listed comes
    obtain ⟨page, cursor, read, more, hasCursor, rfl⟩ := own.turns.asks found
    exact ⟨page, cursor, (pageAt number page).mpr read, more, hasCursor,
      Request.lookup?_atCursor .., fun name other =>
        Request.lookup?_atCursor_other _ _ _ other⟩
  case few => exact few
  case bounded =>
    have each : ∀ id ∈ compiled.subqueries.map (·.id),
        (state.sentFor id).length ≤ max 1 options.maxPages - 1 := by
      intro id inside
      obtain ⟨subquery, listed, rfl⟩ := List.mem_map.mp inside
      exact few subquery listed
    have bound := FollowUps.length_sent_le
      (fun entry member => List.mem_map.mpr (known entry member)) each
    rwa [List.length_map] at bound
  case accepts =>
    intro subquery listed number page found
    obtain ⟨first, comes⟩ := begun success begins.collected follows listed found
    obtain ⟨handle, later, received, rfl, own, pageAt, fails⟩ :=
      history success begins.collected follows listed comes
    have read := (pageAt number page).mp found
    have inside := (List.getElem?_eq_some_iff.mp read).1
    have within := own.within
    rw [own.pages] at within
    refine ⟨Nat.lt_of_lt_of_le inside within, fun last error failed => ?_⟩
    obtain ⟨_, fails⟩ := fails error failed
    rw [fails.more own (List.mem_of_getElem? read)] at last
    cases last
  case continues =>
    by_cases ended : state.Ended
    · exact Or.inl ended
    · have replied : ∀ own, ∃ reply, Request.AnyReply own reply :=
        fun _ => ⟨reply, trivial⟩
      exact Or.inr (FollowUps.exists_step replied ended)

/-- The first evaluation is the result if no connection has more pages. -/
theorem begins_finishes
    (begins : compiled.Begins replies options values reply data value pages)
    (runs : compiled.Runs replies options values (some reply) state outcome)
    (last : ∀ subquery ∈ compiled.subqueries, ∀ page,
      compiled.PageAt options data state subquery 0 page →
        page.hasNextPage = false) :
    outcome = .ok value ∧ state.sent = [] := by
  obtain ⟨follows, ended, rfl⟩ := begins.concludes runs
  have nothing : Run.unfinished compiled.subqueries pages = [] := by
    rw [List.eq_nil_iff_forall_not_mem]
    rintro ⟨subquery, page⟩ waits
    obtain ⟨listed, found, more⟩ := Run.mem_unfinished.mp waits
    have comes := (recorded_iff success begins.collected listed).mp found
    rw [last subquery listed page comes] at more
    cases more
  have distinct := (hasCursors_of_compile success).distinctIds pages
  have noFailure : state.failure = none := by
    by_contra failed
    obtain ⟨⟨id, error⟩, failed⟩ := Option.ne_none_iff_exists'.mp failed
    obtain ⟨_, _, _, _, _, waits, _⟩ :=
      (FollowUps.Reaches.inTurn distinct follows).failure id error failed
    rw [nothing] at waits
    cases waits
  refine ⟨?_, List.eq_nil_iff_forall_not_mem.mpr fun entry member => ?_⟩
  · unfold conclusion
    rw [noFailure, nothing]
  · obtain ⟨_, _, _, waits, _⟩ :=
      (FollowUps.Reaches.concerns follows).sent entry member
    rw [nothing] at waits
    cases waits

/-- If every connection comes to its end, all pages are read. -/
theorem complete_covers {subquery : Subquery} {first : Page}
    (begins : compiled.Begins replies options values reply data value pages)
    (follows : compiled.FollowsUp replies options values pages state)
    (complete : state.Complete) (listed : subquery ∈ compiled.subqueries)
    (comes : compiled.PageAt options data state subquery 0 first)
    (more : first.hasNextPage = true) :
    ∃ read, compiled.Covers options data state subquery read := by
  have waits := Run.mem_unfinished.mpr
    ⟨listed, (recorded_iff success begins.collected listed).mpr comes, more⟩
  have distinct := (hasCursors_of_compile success).distinctIds pages
  obtain ⟨_, found, handle, later, rfl, own, _, last, rfl⟩ := complete.nodes
    (FollowUps.Reaches.inTurn distinct follows) distinct waits
  refine ⟨first :: later, ?_, ⟨handle.page, own.page, last⟩, ?_, ?_⟩
  · exact fun number page => pageAt_iff success begins.collected listed comes
      fun _ _ => own.turns.reads
  · have within := own.within
    rwa [own.pages] at within
  · rw [found, own.nodes]

/-- If no connection fails, the result is that of the second evaluation. -/
theorem begins_completes {subquery : Subquery} {first : Page}
    (begins : compiled.Begins replies options values reply data value pages)
    (runs : compiled.Runs replies options values (some reply) state outcome)
    (noFailure : state.failure = none)
    (listed : subquery ∈ compiled.subqueries)
    (comes : compiled.PageAt options data state subquery 0 first)
    (more : first.hasNextPage = true) :
    outcome = Run.extracted (compiled.program.replay state.finished data) ∧
      ∃ read, compiled.Covers options data state subquery read := by
  obtain ⟨follows, ended, rfl⟩ := begins.concludes runs
  have complete : state.Complete :=
    ended.resolve_right fun failed => failed noFailure
  have waits := Run.mem_unfinished.mpr
    ⟨listed, (recorded_iff success begins.collected listed).mpr comes, more⟩
  refine ⟨?_, complete_covers success begins follows complete listed comes more⟩
  unfold conclusion
  rw [noFailure]
  cases pending : Run.unfinished compiled.subqueries pages with
  | nil =>
      rw [pending] at waits
      cases waits
  | cons entry rest => rfl

/-! ### The limit of pages -/

omit success in
theorem conclusion_exceeded {id : SubqueryId} {limit : Nat} :
    compiled.conclusion data value pages state =
        .error (.pageLimitExceeded id limit) ↔
      ∃ own, state.failure = some (own, .pageLimitExceeded id limit) := by
  unfold conclusion
  cases state.failure with
  | some failure => simp [Prod.ext_iff]
  | none =>
      cases Run.unfinished compiled.subqueries pages with
      | nil => simp
      | cons entry rest =>
          cases compiled.program.replay state.finished data <;>
            simp [Run.extracted]

/-- A connection exceeds the limit of pages at the last page within it. -/
theorem exceeded_page {id own : SubqueryId} {limit : Nat}
    (begins : compiled.Begins replies options values reply data value pages)
    (follows : compiled.FollowsUp replies options values pages state)
    (failed : state.failure = some (own, .pageLimitExceeded id limit)) :
    own = id ∧ limit = options.maxPages ∧
      ∃ subquery ∈ compiled.subqueries, subquery.id = id ∧ ∃ page,
        compiled.PageAt options data state subquery
          (max 1 options.maxPages - 1) page ∧ page.hasNextPage = true := by
  have distinct := (hasCursors_of_compile success).distinctIds pages
  obtain ⟨⟨subquery, _, _, _, _⟩, first, _, _, _, waits, rfl, _⟩ :=
    (FollowUps.Reaches.inTurn distinct follows).failure _ _ failed
  obtain ⟨listed, found, _⟩ := Run.mem_unfinished.mp waits
  have comes := (recorded_iff success begins.collected listed).mp found
  obtain ⟨handle, later, _, rfl, inTurn, pageAt, fails⟩ :=
    history success begins.collected follows listed comes
  obtain ⟨_, fails⟩ := fails _ failed
  obtain ⟨same, sameLimit, more, full⟩ := fails.exceeds
  have within := inTurn.within
  have pages := inTurn.pages
  have atEnd : max 1 options.maxPages - 1 = (first :: later).length - 1 := by
    rw [List.length_cons]
    omega
  refine ⟨same, sameLimit.symm, handle.subquery, listed, same, handle.page,
    ?_, more⟩
  rw [pageAt, atEnd, ← List.getLast?_eq_getElem?]
  exact inTurn.page

/-- If the last page within the limit says that another one follows, the run
has failed, in one way alone if no other connection has failed before. -/
theorem page_exceeded {subquery : Subquery} {page : Page}
    (begins : compiled.Begins replies options values reply data value pages)
    (follows : compiled.FollowsUp replies options values pages state)
    (ended : state.Ended) (listed : subquery ∈ compiled.subqueries)
    (read : compiled.PageAt options data state subquery
      (max 1 options.maxPages - 1) page)
    (more : page.hasNextPage = true)
    (alone : ∀ other error, state.failure = some (other, error) →
      other = subquery.id) :
    state.failure = some (subquery.id,
      .pageLimitExceeded subquery.id options.maxPages) := by
  obtain ⟨first, comes, moreFirst⟩ :=
    begun_more success begins.collected follows listed read more
  rcases ended with complete | failed
  · obtain ⟨pages, covers⟩ := complete_covers success begins follows complete
      listed comes moreFirst
    obtain ⟨last, atEnd, ended⟩ := covers.last
    have found := (covers.pages _ page).mp read
    have inside := (List.getElem?_eq_some_iff.mp found).1
    have number : max 1 options.maxPages - 1 = pages.length - 1 := by
      have within := covers.within
      omega
    rw [number, ← List.getLast?_eq_getElem?, atEnd] at found
    rw [Option.some.inj found, more] at ended
    cases ended
  · obtain ⟨⟨own, error⟩, failed⟩ := Option.ne_none_iff_exists'.mp failed
    obtain rfl := alone own error failed
    obtain ⟨handle, later, _, rfl, inTurn, pageAt, fails⟩ :=
      history success begins.collected follows listed comes
    obtain ⟨_, fails⟩ := fails error failed
    have inside := (List.getElem?_eq_some_iff.mp ((pageAt _ page).mp read)).1
    have full : options.maxPages ≤ handle.pages := by
      rw [inTurn.pages]
      rw [List.length_cons] at inside
      omega
    rw [failed, fails.error_eq inTurn full]

/-- The limit is exceeded exactly if the last page within it says that another
one follows, unless another connection fails before. -/
theorem runs_exceeded_iff {reply : Option Reply} {id : SubqueryId} {limit : Nat}
    (runs : compiled.Runs replies options values reply state outcome) :
    outcome = .error (.pageLimitExceeded id limit) ↔
      limit = options.maxPages ∧ ∃ first data value pages subquery page,
        reply = some first ∧
        compiled.Begins replies options values first data value pages ∧
        subquery ∈ compiled.subqueries ∧ subquery.id = id ∧
        compiled.PageAt options data state subquery
          (max 1 options.maxPages - 1) page ∧
        page.hasNextPage = true ∧
        ∀ other error, state.failure = some (other, error) → other = id := by
  constructor
  · intro exceeded
    cases runs with
    | refused _ => cases exceeded
    | unanswered _ _ failed =>
        obtain rfl := Except.error.inj exceeded
        exact absurd rfl (Reply.data_ne_exceeded failed id limit)
    | unevaluated _ _ _ _ => cases exceeded
    | followed begins follows _ =>
        obtain ⟨own, failed⟩ := conclusion_exceeded.mp exceeded
        obtain ⟨rfl, rfl, subquery, listed, same, page, read, more⟩ :=
          exceeded_page success begins follows failed
        refine ⟨rfl, _, _, _, _, subquery, page, rfl, begins, listed, same,
          read, more, fun other error found => ?_⟩
        rw [failed] at found
        exact (Prod.mk.inj (Option.some.inj found)).1.symm
  · rintro ⟨rfl, first, data, value, pages, subquery, page, rfl, begins, listed,
      rfl, read, more, alone⟩
    obtain ⟨follows, ended, rfl⟩ := begins.concludes runs
    exact conclusion_exceeded.mpr ⟨_, page_exceeded success begins follows ended
      listed read more alone⟩

end

/-- Every run keeps to the protocol, whatever comes in reply and in whatever
order connections are followed. -/
theorem keepsProtocol {pipeline : Pipeline} {compiled : CompiledOperation}
    (success : compile pipeline = .ok compiled) (options : ClientOptions)
    (values : Entries Json) : compiled.KeepsProtocol options values := by
  constructor
  case refuses =>
    intro name reply state outcome missing runs
    cases reply with
    | none =>
        cases runs with
        | refused other =>
            rw [missing] at other
            obtain rfl := Option.some.inj other
            exact ⟨rfl, rfl⟩
    | some reply =>
        have complete := runs.complete
        rw [missing] at complete
        cases complete
  case carries => exact firstRequest_carries success
  case starts => exact fun _ listed => firstRequest_starts success listed
  case passes => exact fun _ others => Run.lookup?_withCursors_other others
  case proceeds =>
    exact fun _ _ _ _ _ begins follows => proceeds success begins follows
  case endless =>
    intro _ _ _ pages _ _ follows
    exact FollowUps.Reaches.not_endless
      ((hasCursors_of_compile success).distinctIds pages) follows
  case bounded =>
    intro reply state outcome runs
    cases runs with
    | refused _ => exact Nat.zero_le _
    | unanswered _ _ _ => exact Nat.le_add_right 1 _
    | unevaluated _ _ _ _ => exact Nat.le_add_right 1 _
    | followed begins follows _ =>
        have bounded := (proceeds success begins follows).bounded
        rw [requests, List.length_cons, List.length_map, Nat.add_comm]
        exact Nat.add_le_add_left bounded 1
  case finishes =>
    exact fun _ _ _ _ _ _ begins runs last =>
      begins_finishes success begins runs last
  case completes =>
    exact fun _ _ _ _ _ _ _ _ begins runs noFailure listed comes more =>
      begins_completes success begins runs noFailure listed comes more
  case exceeds => exact fun _ _ _ _ _ runs => runs_exceeded_iff success runs
  case oneByOne =>
    intro σ transport state
    have gives : transport.Gives Request.AnyReply := fun _ _ => trivial
    obtain ⟨reply, followUps, runs, sent, _⟩ :=
      run_runs compiled options values gives state
    exact ⟨reply, followUps, runs, sent⟩

end CompiledOperation

namespace Sample

def allTitlesText : String :=
  "query($cursor0: String) \x7b\n  items(after: $cursor0) \x7b\n" ++
  "    pageInfo \x7b\n      hasNextPage\n      endCursor\n    \x7d\n" ++
  "    nodes \x7b\n      title\n    \x7d\n  \x7d\n\x7d\n"

/-- The request for the titles of a page of the items. -/
def titlesRequest (cursor : Json) : Request :=
  { query := allTitlesText, variableValues := [("cursor0", cursor)] }

def onePageOptions : ClientOptions := { options with maxPages := 1 }

end Sample

namespace CompiledOperation

/-- The second page of the items is asked for at the end cursor of the first
one, unless it is beyond the limit. -/
theorem keepsProtocol_allTitles :
    ∃ compiled, compile (Sample.allTitles (.root .query) []) = .ok compiled ∧
      compiled.subqueries = [Sample.itemsSubquery] ∧
      compiled.KeepsProtocol Sample.options [] ∧
      (∃ reply state,
        compiled.Runs Request.AnyReply Sample.options [] reply state
          (.ok (Sample.titled ["a", "b"])) ∧
        compiled.requests [] reply state =
          [Sample.titlesRequest .null, Sample.titlesRequest (.string "a")]) ∧
      compiled.KeepsProtocol Sample.onePageOptions [] ∧
      ∃ reply state,
        compiled.Runs Request.AnyReply Sample.onePageOptions [] reply state
          (.error (.pageLimitExceeded 0 1)) ∧
        compiled.requests [] reply state = [Sample.titlesRequest .null] := by
  have computed : (compile (Sample.allTitles (.root .query) [])).map
      (fun compiled => (compiled.subqueries,
        compiled.plan.run Sample.twoPagesTransport Sample.options [] (),
        compiled.plan.run Sample.twoPagesTransport Sample.onePageOptions []
          ())) =
      .ok ([Sample.itemsSubquery],
        (.ok (Sample.titled ["a", "b"]),
          { transport := ()
            sent := [Sample.titlesRequest .null,
              Sample.titlesRequest (.string "a")] }),
        (.error (.pageLimitExceeded 0 1),
          { transport := (), sent := [Sample.titlesRequest .null] })) := by
    unfold Sample.titlesRequest
    cbv
  obtain ⟨compiled, success, facts⟩ := Evaluate.map_eq_ok.mp computed
  simp only [Prod.mk.injEq] at facts
  obtain ⟨subqueries, both, one⟩ := facts
  have keeps := keepsProtocol success Sample.options []
  have keepsOne := keepsProtocol success Sample.onePageOptions []
  obtain ⟨reply, state, runs, sent⟩ :=
    keeps.oneByOne Sample.twoPagesTransport ()
  obtain ⟨replyOne, stateOne, runsOne, sentOne⟩ :=
    keepsOne.oneByOne Sample.twoPagesTransport ()
  rw [both] at runs sent
  rw [one] at runsOne sentOne
  exact ⟨compiled, success, subqueries, keeps, ⟨reply, state, runs, sent.symm⟩,
    keepsOne, replyOne, stateOne, runsOne, sentOne.symm⟩

/-! ### How often an operation is sent -/

/-- The first evaluation of a run succeeds. -/
structure Evaluates {σ : Type} (compiled : CompiledOperation)
    (transport : Transport σ) (options : ClientOptions)
    (values : Entries Json) (state : σ) (data value : Json) (pages : Pages) :
    Prop where
  complete :
    Run.missingVariable? compiled.plan.variableDefinitions values = none
  answered : ((startSession state).reply transport
    (compiled.firstRequest values)).data options.timeout = .ok data
  collected : compiled.program.collect data = .ok (value, pages)

/-- An operation is sent once, unless the first evaluation comes to a connection
that has a next page.  All further requests send the document again for the
pages of such connections. -/
theorem sent_once_or_more_pages {σ : Type} (compiled : CompiledOperation)
    (transport : Transport σ) (options : ClientOptions) (values : Entries Json)
    (state : σ) :
    (compiled.plan.run transport options values state).2.sent.length ≤ 1 ∨
      ∃ data value pages,
        compiled.Evaluates transport options values state data value pages ∧
          (∃ subquery ∈ compiled.subqueries, ∃ page,
            pages.lookup? subquery.id = some page ∧ page.hasNextPage = true) ∧
          ∀ request ∈
            (compiled.plan.run transport options values state).2.sent.tail,
            request.query = compiled.queryText ∧
              ∃ subquery ∈ compiled.subqueries, ∃ page cursor,
                pages.lookup? subquery.id = some page ∧
                  page.hasNextPage = true ∧
                  request =
                    (compiled.firstRequest values).atCursor subquery
                      cursor := by
  have gives : transport.Gives Request.AnyReply := fun _ _ => trivial
  obtain ⟨reply, followUps, runs, sent, own⟩ :=
    run_runs compiled options values gives state
  rw [sent]
  generalize (compiled.plan.run transport options values state).1 = outcome
    at runs
  cases runs with
  | refused _ => exact Or.inl (Nat.zero_le _)
  | unanswered _ _ _ => exact Or.inl (Nat.le_refl _)
  | unevaluated _ _ _ _ => exact Or.inl (Nat.le_refl _)
  | @followed reply data value pages _ begins follows _ =>
      cases others : followUps.sent with
      | nil => exact Or.inl (by simp [requests, others])
      | cons entry rest =>
          have asked : entry ∈ followUps.sent := by simp [others]
          obtain ⟨subquery, listed, page, _, _, found, more, _⟩ :=
            follows.mem_sent asked
          refine Or.inr ⟨data, value, pages,
            ⟨begins.complete, own reply rfl ▸ begins.answered,
              begins.collected⟩,
            ⟨subquery, listed, page, found, more⟩, fun request member => ?_⟩
          obtain ⟨entry, inside, rfl⟩ := List.mem_map.mp member
          obtain ⟨subquery, listed, page, cursor, _, found, more, same⟩ :=
            follows.mem_sent inside
          exact ⟨same ▸ rfl, subquery, listed, page, cursor, found, more, same⟩

/-- A mutation is sent again for the next page of a connection it asks for. -/
theorem mutation_sent_twice :
    ∃ compiled, compile (Sample.allTitles (.root .mutation) []) = .ok compiled ∧
      compiled.operation.kind = .mutation ∧
        (compiled.plan.run Sample.twoPagesTransport Sample.options []
            ()).2.sent.length = 2 := by
  have computed :
      (compile (Sample.allTitles (.root .mutation) [])).map (fun compiled =>
      (compiled.operation.kind,
        (compiled.plan.run Sample.twoPagesTransport Sample.options []
          ()).2.sent.length)) =
      .ok (.mutation, 2) := by
    cbv
  cases success : compile (Sample.allTitles (.root .mutation) []) with
  | error error =>
      rw [success] at computed
      cases computed
  | ok compiled =>
      rw [success] at computed
      obtain ⟨kind, sent⟩ := Prod.mk.inj (Except.ok.inj computed)
      exact ⟨compiled, rfl, kind, sent⟩

end CompiledOperation

end GraphPipeline
