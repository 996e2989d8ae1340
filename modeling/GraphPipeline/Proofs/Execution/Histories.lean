import GraphPipeline.Proofs.Compile.CursorVariables
import GraphPipeline.Proofs.Execution.Interleaving
import GraphPipeline.Proofs.PageCompleteness

/-!
# Histories of connections

The pages of a connection are those the data in the replies hold.  Where a
connection is while others are followed at the same time can be told from them:
it has sent a request for each of them but the first, and for the one after
them if it waits for a reply.
-/

namespace GraphPipeline

namespace CompiledOperation

section

variable (compiled : CompiledOperation) (options : ClientOptions)
  (data : Json) (state : FollowUps) (subquery : Subquery)

/-- The evaluation of the data comes to a connection. -/
def ComesTo : Prop :=
  ∃ reading, compiled.program.ReadsData none data reading ∧
    reading.id = subquery.id

/-- The pages of a connection in order: the one in the data that are evaluated
first, and those in the data of the replies to the requests for it. -/
def PageAt : Nat → Page → Prop
  | 0, page => compiled.ComesTo data subquery ∧ subquery.HoldsPage data page
  | number + 1, page =>
      ∃ reply later, (state.receivedFor subquery.id)[number]? = some reply ∧
        reply.Provides options.timeout later ∧ subquery.HoldsPage later page

end

variable {compiled : CompiledOperation} {options : ClientOptions}
  {data value : Json} {pages : Pages} {state : FollowUps}
  {subquery : Subquery}

/-- A page counts if a client reads it. -/
theorem pageAt_succ {number : Nat} {page : Page} :
    compiled.PageAt options data state subquery (number + 1) page ↔
      ∃ reply, (state.receivedFor subquery.id)[number]? = some reply ∧
        subquery.pageOf options.timeout reply = .ok page := by
  simp only [PageAt, Subquery.pageOf_eq_ok]
  exact exists_congr fun reply => exists_and_left

/-- An evaluation records the pages of the connections it comes to. -/
theorem recorded_iff {pipeline : Pipeline}
    (success : compile pipeline = .ok compiled)
    (collected : compiled.program.collect data = .ok (value, pages))
    (member : subquery ∈ compiled.subqueries) {page : Page} :
    pages.lookup? subquery.id = some page ↔
      compiled.ComesTo data subquery ∧ subquery.HoldsPage data page := by
  obtain ⟨kind, document, outcome, fits⟩ := fits_of_compile success
  obtain rfl : compiled.program.reached data = pages :=
    (Evaluate.collect_eq_ok.mp collected).2
  obtain ⟨index, selected⟩ := List.mem_iff_getElem?.mp member
  rw [outcome.subqueries] at selected
  have own : ∀ {reading : Reading} {other : Subquery},
      reading.At document (fun _ => True) data other →
        reading.id = subquery.id → other = subquery := by
    intro reading other stands same
    have known := stands.known
    rw [same, (outcome.formed.numbered selected).1, selected] at known
    exact (Option.some.inj known).symm
  constructor
  · intro found
    obtain ⟨reading, path, same, reads, read⟩ := reached_read fits found
    obtain ⟨other, stands⟩ := fits.readsData outcome.formed reads
    obtain rfl := own stands same
    exact ⟨⟨reading, reads, same⟩, reading.connection, path, stands.found,
      stands.keys ▸ read⟩
  · rintro ⟨⟨reading, reads, same⟩, holds⟩
    obtain ⟨other, found, path, stands, known, read⟩ :=
      collected_page outcome.formed fits collected reads
    obtain rfl := own stands same
    have recorded : other.HoldsPage data found :=
      ⟨reading.connection, path, stands.found, stands.keys ▸ read⟩
    rw [← same, known, recorded.unique holds]

theorem unfinished_sublist (subqueries : List Subquery) (pages : Pages) :
    ((Run.unfinished subqueries pages).map (·.1)).Sublist subqueries := by
  induction subqueries with
  | nil => exact List.Sublist.refl []
  | cons subquery subqueries induction =>
      unfold Run.unfinished at induction ⊢
      cases waiting :
          (pages.lookup? subquery.id).filter (·.hasNextPage) with
      | none =>
          simpa [List.filterMap_cons, waiting] using induction.cons subquery
      | some page => simpa [List.filterMap_cons, waiting] using induction

theorem HasCursors.nodup_ids (cursors : compiled.HasCursors) :
    (compiled.subqueries.map (·.id)).Nodup := by
  apply List.pairwise_iff_getElem.mpr
  intro first second below within before same
  rw [List.length_map] at below within
  rw [List.getElem_map, List.getElem_map,
    (cursors.numbered (List.getElem?_eq_getElem below)).1,
    (cursors.numbered (List.getElem?_eq_getElem within)).1] at same
  exact absurd same (Nat.ne_of_lt before)

theorem HasCursors.distinctIds (cursors : compiled.HasCursors)
    (pages : Pages) :
    ((Run.unfinished compiled.subqueries pages).map (·.1.id)).Nodup := by
  have fewer :=
    (unfinished_sublist compiled.subqueries pages).map Subquery.id
  rw [List.map_map] at fewer
  exact cursors.nodup_ids.sublist fewer

/-- The pages read are all the pages of a connection. -/
theorem pageAt_iff {pipeline : Pipeline}
    (success : compile pipeline = .ok compiled)
    (collected : compiled.program.collect data = .ok (value, pages))
    (member : subquery ∈ compiled.subqueries) {first : Page}
    (begins : compiled.PageAt options data state subquery 0 first)
    {later : List Page}
    (read : ∀ (number : Nat) (page : Page), later[number]? = some page ↔
      ∃ reply, (state.receivedFor subquery.id)[number]? = some reply ∧
        subquery.pageOf options.timeout reply = .ok page)
    {number : Nat} {page : Page} :
    compiled.PageAt options data state subquery number page ↔
      (first :: later)[number]? = some page := by
  cases number with
  | zero =>
      rw [PageAt, ← recorded_iff success collected member,
        (recorded_iff success collected member).mpr begins]
      rfl
  | succ number => exact pageAt_succ.trans (read number page).symm

section

variable {replies : Request → Reply → Prop} {values : Entries Json}
  {pipeline : Pipeline} (success : compile pipeline = .ok compiled)
  (collected : compiled.program.collect data = .ok (value, pages))
  (follows : compiled.FollowsUp replies options values pages state)
  (member : subquery ∈ compiled.subqueries)
include success collected follows member

/-- A connection that is not among those with more pages stays as it is. -/
theorem settled
    (last : ∀ first, compiled.PageAt options data state subquery 0 first →
      first.hasNextPage = false) :
    state.sentFor subquery.id = [] ∧ state.receivedFor subquery.id = [] ∧
      ∀ error, state.failure ≠ some (subquery.id, error) := by
  have inTurn := FollowUps.Reaches.inTurn
    ((hasCursors_of_compile success).distinctIds pages) follows
  have outside : subquery.id ∉
      (Run.unfinished compiled.subqueries pages).map (·.1.id) := by
    intro inside
    obtain ⟨⟨other, page⟩, waits, same⟩ := List.mem_map.mp inside
    obtain ⟨_, found, more⟩ := Run.mem_unfinished.mp waits
    have same : other.id = subquery.id := same
    rw [same] at found
    have ended :=
      last page ((recorded_iff success collected member).mp found)
    rw [ended] at more
    cases more
  obtain ⟨unsent, unreceived⟩ := inTurn.others subquery.id outside
  refine ⟨unsent, unreceived, fun error failed => outside ?_⟩
  obtain ⟨handle, first, _, _, _, known, same, _⟩ := inTurn.failure _ _ failed
  exact List.mem_map.mpr ⟨(handle.subquery, first), known, same⟩

/-- Where a connection is that the evaluation comes to. -/
theorem history {first : Page}
    (begins : compiled.PageAt options data state subquery 0 first) :
    ∃ (handle : Handle) (later : List Page) (received : List Reply),
      handle.subquery = subquery ∧
      handle.InTurn replies options (compiled.firstRequest values) first
        (state.sentFor subquery.id) received later ∧
      (∀ (number : Nat) (page : Page),
        compiled.PageAt options data state subquery number page ↔
          (first :: later)[number]? = some page) ∧
      ∀ error, state.failure = some (subquery.id, error) →
        ∃ reply, handle.Fails replies options reply error := by
  have recorded := (recorded_iff success collected member).mpr begins
  cases more : first.hasNextPage with
  | false =>
      obtain ⟨unsent, unreceived, alive⟩ :=
        settled success collected follows member fun page found => by
          have known := (recorded_iff success collected member).mpr found
          rw [recorded] at known
          rwa [← Option.some.inj known]
      refine ⟨.start subquery first, [], [], rfl, ?_, fun _ _ =>
        pageAt_iff success collected member begins ?_, ?_⟩
      · rw [unsent]
        exact Handle.start_inTurn subquery first
      · simp [unreceived]
      · exact fun error failed => absurd failed (alive error)
  | true =>
      have distinct := (hasCursors_of_compile success).distinctIds pages
      have pending := Run.mem_unfinished.mpr ⟨member, recorded, more⟩
      obtain ⟨handle, later, received, same, own, read, fails⟩ :=
        (FollowUps.Reaches.inTurn distinct follows).handle distinct pending
      exact ⟨handle, later, received, same, own,
        fun _ _ => pageAt_iff success collected member begins read, fails⟩

/-- Requests are sent for the connections that the evaluation comes to alone. -/
theorem begun_of_sent (sent : state.sentFor subquery.id ≠ []) :
    ∃ first, compiled.PageAt options data state subquery 0 first := by
  by_contra never
  exact sent (settled success collected follows member
    fun first begins => absurd ⟨first, begins⟩ never).1

/-- A connection is asked for the pages after its first one alone, and for no
page beyond the limit. -/
theorem sentFor_few :
    (state.sentFor subquery.id).length ≤ max 1 options.maxPages - 1 := by
  by_cases unsent : state.sentFor subquery.id = []
  · rw [unsent]
    exact Nat.zero_le _
  · obtain ⟨first, begins⟩ :=
      begun_of_sent success collected follows member unsent
    obtain ⟨handle, _, _, _, own, _⟩ :=
      history success collected follows member begins
    exact own.sent_le

/-- There is no later page without a first one. -/
theorem begun {number : Nat} {page : Page}
    (found : compiled.PageAt options data state subquery number page) :
    ∃ first, compiled.PageAt options data state subquery 0 first := by
  by_contra never
  obtain ⟨_, unreceived, _⟩ := settled success collected follows member
    fun first begins => absurd ⟨first, begins⟩ never
  cases number with
  | zero => exact never ⟨page, found⟩
  | succ number => simp [pageAt_succ, unreceived] at found

/-- If some page says that another one follows, the first one says so. -/
theorem begun_more {number : Nat} {page : Page}
    (found : compiled.PageAt options data state subquery number page)
    (more : page.hasNextPage = true) :
    ∃ first, compiled.PageAt options data state subquery 0 first ∧
      first.hasNextPage = true := by
  obtain ⟨first, begins⟩ := begun success collected follows member found
  refine ⟨first, begins, ?_⟩
  cases last : first.hasNextPage with
  | true => rfl
  | false =>
      have same : ∀ {other}, compiled.PageAt options data state subquery 0
          other → other = first := fun found => found.2.unique begins.2
      obtain ⟨_, unreceived, _⟩ := settled success collected follows member
        fun other found => same found ▸ last
      cases number with
      | zero => rw [← last, ← same found, more]
      | succ number => simp [pageAt_succ, unreceived] at found

end

end CompiledOperation

end GraphPipeline
