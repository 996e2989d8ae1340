import GraphPipeline.Proofs.Execution.Determinacy
import GraphPipeline.Proofs.Execution.Histories
import GraphPipeline.Proofs.Execution.OneByOne

/-!
# Independence of the order of connections

If the reply to a request depends on its body alone, connections that are
followed at the same time send the same requests and lead to the same result in
whatever order they take their steps, which is the result of following them one
after the other.
-/

namespace GraphPipeline

/-- A transport that keeps no state. -/
def answering (answer : String → Reply) : Transport Unit := fun request =>
  pure (answer request.body)

/-! ### Evaluations look nodes up -/

namespace Evaluate

variable {first second : AllNodes}

theorem nodesOf_congr (same : ∀ id, first.lookup? id = second.lookup? id)
    (id : SubqueryId) (keys : PageKeys) (connection : Json) :
    nodesOf (some first) id keys connection =
      nodesOf (some second) id keys connection := by
  unfold nodesOf
  simp only [Option.bind_some, same]
  cases second.lookup? id <;> rfl

mutual

/-- An evaluation does not depend on the order in which the nodes are listed. -/
theorem program_congr (same : ∀ id, first.lookup? id = second.lookup? id)
    (inner : Program) :
    program (some first) inner = program (some second) inner := by
  funext value
  cases inner with
  | field key inner => simp only [program, program_congr same inner]
  | readScalar key type => rfl
  | optional inner => simp only [program, program_congr same inner]
  | mapList filters inner => simp only [program, program_congr same inner]
  | narrow typeName mode inner => simp only [program, program_congr same inner]
  | buildRecord fields => simp only [program, fieldPrograms_congr same fields]
  | enforceSingle inner => simp only [program, program_congr same inner]
  | toDictionary entry => simp only [program, program_congr same entry]
  | keyValue key inner =>
      simp only [program, program_congr same key, program_congr same inner]
  | subquerySink id keys inner =>
      simp only [program, program_congr same inner,
        nodesOf_congr same id keys value]
  | bind depth inner => simp only [program, program_congr same inner]
  | parameter depth inner => simp only [program, program_congr same inner]

theorem fieldPrograms_congr (same : ∀ id, first.lookup? id = second.lookup? id)
    (fields : List (String × Program)) :
    fieldPrograms (some first) fields = fieldPrograms (some second) fields := by
  funext value
  cases fields with
  | nil => rfl
  | cons field fields =>
      obtain ⟨key, inner⟩ := field
      simp only [fieldPrograms, program_congr same inner,
        fieldPrograms_congr same fields]

end

end Evaluate

theorem Program.replay_congr {first second : AllNodes}
    (same : ∀ id, first.lookup? id = second.lookup? id) (program : Program)
    (data : Json) :
    program.replay first data = program.replay second data := by
  unfold replay
  rw [Evaluate.program_congr same]

namespace CompiledOperation

/-! ### Runs of an operation -/

section

variable (compiled : CompiledOperation) (answer : String → Reply)
  (options : ClientOptions) (values : Entries Json) (data value : Json)
  (pages : Pages)

/-- The order of the steps in which connections are followed makes no
difference. -/
structure OrderIndependent : Prop where
  /-- The requests for each connection are the same, and sent in the same
  order. -/
  requests : ∀ first second,
    compiled.FollowsUp (Request.RepliedBy answer) options values pages first →
      first.Complete →
    compiled.FollowsUp (Request.RepliedBy answer) options values pages second →
      second.Complete →
    ∀ id, first.sentFor id = second.sentFor id
  /-- The value or the extraction error is the same. -/
  conclusions : ∀ first second,
    compiled.FollowsUp (Request.RepliedBy answer) options values pages first →
      first.Complete →
    compiled.FollowsUp (Request.RepliedBy answer) options values pages second →
      second.Complete →
    compiled.conclusion data value pages first =
      compiled.conclusion data value pages second
  /-- If a connection fails, no order leads to a value. -/
  failures : ∀ first second,
    compiled.FollowsUp (Request.RepliedBy answer) options values pages first →
      first.failure ≠ none →
    compiled.FollowsUp (Request.RepliedBy answer) options values pages second →
    ¬ second.Complete ∧
      ((∀ next,
        ¬ second.Step (Request.RepliedBy answer) options
          (compiled.firstRequest values) next) →
        ∃ error, compiled.conclusion data value pages second = .error error)
  /-- Following one connection after the other gives the same value or
  extraction error. -/
  sequential :
    ∀ state,
      compiled.FollowsUp (Request.RepliedBy answer) options values pages state →
      state.Complete → ∀ session,
        ((Run.resolve (answering answer) options compiled.plan
            (compiled.firstRequest values) data).run.run session).1 =
          compiled.conclusion data value pages state
  /-- It gives no value if a connection fails in any order. -/
  sequentialFailure :
    ∀ state,
      compiled.FollowsUp (Request.RepliedBy answer) options values pages state →
      state.failure ≠ none → ∀ session, ∃ error,
        ((Run.resolve (answering answer) options compiled.plan
            (compiled.firstRequest values) data).run.run session).1 =
          .error error
  /-- No more connections are followed at once than allowed. -/
  limited :
    ∀ state,
      compiled.FollowsUp (Request.RepliedBy answer) options values pages state →
      state.running.length ≤ max 1 options.concurrentHandles
  /-- Whatever steps are taken, the connections come to their ends or one
  fails. -/
  ends :
    ∀ state,
      compiled.FollowsUp (Request.RepliedBy answer) options values pages state →
      ∃ final,
        state.Reaches (Request.RepliedBy answer) options
          (compiled.firstRequest values) final ∧
        (final.Complete ∨ final.failure ≠ none)

end

/-- Connections that are followed at the same time do not interfere. -/
theorem orderIndependent {pipeline : Pipeline} {compiled : CompiledOperation}
    (success : compile pipeline = .ok compiled) {data value : Json}
    {pages : Pages}
    (collected : compiled.program.collect data = .ok (value, pages))
    (answer : String → Reply) (options : ClientOptions)
    (values : Entries Json) :
    compiled.OrderIndependent answer options values data value pages := by
  have distinct := (hasCursors_of_compile success).distinctIds pages
  have replied : ∀ own, ∃ reply, Request.RepliedBy answer own reply :=
    fun _ => ⟨_, rfl⟩
  have gives : (answering answer).Gives (Request.RepliedBy answer) :=
    fun _ _ => rfl
  have noValue : ∀ first second,
      compiled.FollowsUp (Request.RepliedBy answer) options values pages first →
      first.failure ≠ none →
      compiled.FollowsUp (Request.RepliedBy answer) options values pages
        second →
      ¬ second.Complete :=
    fun first second one failed other complete =>
      failed (FollowUps.Complete.not_failed distinct other complete one)
  have conclusions : ∀ first second,
      compiled.FollowsUp (Request.RepliedBy answer) options values pages first →
      first.Complete →
      compiled.FollowsUp (Request.RepliedBy answer) options values pages
        second →
      second.Complete →
      compiled.conclusion data value pages first =
        compiled.conclusion data value pages second := by
    intro first second one ended other otherEnded
    have same : ∀ id, first.finished.lookup? id = second.finished.lookup? id :=
      fun id =>
        (FollowUps.Complete.agree distinct one ended other otherEnded id).2
    unfold conclusion
    rw [ended.failure, otherEnded.failure, Program.replay_congr same]
  constructor
  · intro first second one ended other otherEnded id
    exact (FollowUps.Complete.agree distinct one ended other otherEnded id).1
  · exact conclusions
  · intro first second one failed other
    have never := noValue first second one failed other
    refine ⟨never, fun stuck => ?_⟩
    cases failure : second.failure with
    | none =>
        have going : ¬ second.Ended := fun ended =>
          ended.elim never fun failed => failed failure
        obtain ⟨next, step⟩ := FollowUps.exists_step replied going
        exact absurd step (stuck next)
    | some failed =>
        refine ⟨failed.2, ?_⟩
        unfold conclusion
        rw [failure]
  · intro state follows complete session
    obtain ⟨last, lastFollows, ended, outcome, _⟩ :=
      resolve_concludes options values gives collected session
    rw [outcome]
    rcases ended with lastComplete | failed
    · exact conclusions last state lastFollows lastComplete follows complete
    · exact absurd complete (noValue last state lastFollows failed follows)
  · intro state follows failed session
    obtain ⟨last, lastFollows, ended, outcome, _⟩ :=
      resolve_concludes options values gives collected session
    rw [outcome]
    rcases ended with complete | lastFailed
    · exact absurd complete (noValue state last follows failed lastFollows)
    · obtain ⟨⟨id, error⟩, failure⟩ := Option.ne_none_iff_exists'.mp lastFailed
      refine ⟨error, ?_⟩
      unfold conclusion
      rw [failure]
  · exact fun state follows => FollowUps.Reaches.running_le follows
  · intro state follows
    exact FollowUps.Reaches.ends replied distinct follows

end CompiledOperation

namespace Sample

/-- The titles of all items and those of all others. -/
def itemsAndOthers : Pipeline :=
  (Pipeline.root .query).select "q"
    [("items", allTitles (.parameter "q") []),
      ("others",
       titlesOf (((Pipeline.parameter "q").property others).allPages nodes))]

/-- Every request is replied to with the last page of the items and that of the
others. -/
def lastPages (_ : String) : Reply :=
  let last (title : String) :=
    "\x7b\"nodes\":[\x7b\"title\":\"" ++ title ++
      "\"\x7d],\"pageInfo\":\x7b\"hasNextPage\":false\x7d\x7d"
  { delay := ⟨0⟩
    outcome := .ok
      { status := .ok
        body :=
          ascii ("\x7b\"data\":\x7b\"items\":" ++ last "a" ++ ",\"others\":" ++
          last "d" ++ "\x7d\x7d") } }

def bothOptions : ClientOptions := { options with concurrentHandles := 2 }

def lastData : Json :=
  .object
    [("items", connection (.array [item "a"]) [("hasNextPage", .bool false)]),
     ("others", connection (.array [item "d"]) [("hasNextPage", .bool false)])]

theorem lastPages_data (text : String) :
    (lastPages text).data ⟨0⟩ = .ok lastData := by
  cbv

/-- A connection whose second page is its last one does not fail. -/
theorem alone_twoPages {answer : String → Reply} {subquery : Subquery}
    {page last : Page} {cursor : String}
    (answers : ∀ text, (answer text).data ⟨0⟩ = .ok lastData)
    (more : page.hasNextPage = true) (hasCursor : page.endCursor = some cursor)
    (read : Run.laterPage subquery lastData = .ok last)
    (ends : last.hasNextPage = false) (request : Request) :
    (subquery.alone answer bothOptions request page).1 =
      .ok (page.nodes ++ last.nodes) := by
  have replied : subquery.pageOf bothOptions.timeout
      (answer (request.atCursor subquery cursor).body) = .ok last := by
    unfold Subquery.pageOf
    rw [show bothOptions.timeout = ⟨0⟩ from rfl, answers]
    exact read
  unfold Subquery.alone
  rw [show bothOptions.maxPages - 1 = 0 + 1 from rfl,
    Subquery.remaining_next more hasCursor, replied]
  dsimp only
  rw [Subquery.remaining_finished ends]
  simp [Except.map]

end Sample

namespace CompiledOperation

/-- Items and others are followed at the same time, to their ends. -/
theorem orderIndependent_itemsAndOthers :
    ∃ compiled value pages, compile Sample.itemsAndOthers = .ok compiled ∧
      compiled.program.collect (Sample.lateItem []) = .ok (value, pages) ∧
        Run.unfinished compiled.subqueries pages =
          [(Sample.itemsSubquery, Sample.noItems),
            (Sample.othersSubquery, Sample.someOthersPage)] ∧
        compiled.OrderIndependent Sample.lastPages Sample.bothOptions []
          (Sample.lateItem []) value pages ∧
        ∃ state,
          compiled.FollowsUp (Request.RepliedBy Sample.lastPages)
            Sample.bothOptions [] pages state ∧
          state.Complete := by
  have computed : (compile Sample.itemsAndOthers).map (fun compiled =>
      (compiled.subqueries, compiled.program.collect (Sample.lateItem []))) =
      .ok ([Sample.itemsSubquery, Sample.othersSubquery],
        .ok
          (.object
             [("items", Sample.titled []), ("others", Sample.titled ["c"])],
           [(0, Sample.noItems), (1, Sample.someOthersPage)])) := by
    cbv
  obtain ⟨compiled, success, facts⟩ := Evaluate.map_eq_ok.mp computed
  obtain ⟨subqueries, collected⟩ := Prod.mk.inj facts
  have independent :=
    orderIndependent success collected Sample.lastPages Sample.bothOptions []
  have pending : Run.unfinished compiled.subqueries
      [(0, Sample.noItems), (1, Sample.someOthersPage)] =
        [(Sample.itemsSubquery, Sample.noItems),
          (Sample.othersSubquery, Sample.someOthersPage)] := by
    rw [subqueries]
    rfl
  refine ⟨compiled, _, _, success, collected, pending, independent, ?_⟩
  obtain ⟨final, reaches, ended⟩ := independent.ends _ .refl
  refine ⟨final, reaches, ended.resolve_right fun failed => ?_⟩
  obtain ⟨⟨id, error⟩, failure⟩ := Option.ne_none_iff_exists'.mp failed
  have distinct := (hasCursors_of_compile success).distinctIds
    [(0, Sample.noItems), (1, Sample.someOthersPage)]
  obtain ⟨subquery, page, member, alone⟩ :=
    (FollowUps.Reaches.inTurn distinct reaches).failed_alone failure
  rw [pending] at member
  rcases List.mem_cons.mp member with first | second
  · obtain ⟨rfl, rfl⟩ := Prod.mk.inj first
    rw [Sample.alone_twoPages Sample.lastPages_data rfl rfl rfl rfl] at alone
    cases alone
  · obtain ⟨rfl, rfl⟩ := Prod.mk.inj (List.mem_singleton.mp second)
    rw [Sample.alone_twoPages Sample.lastPages_data rfl rfl rfl rfl] at alone
    cases alone

end CompiledOperation

end GraphPipeline
