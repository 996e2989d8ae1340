import GraphPipeline.Execution.Client

/-!
# Following pages

What a run results in on a transport that answers every request with data: pages
are followed to their end, and the result is that of the first evaluation, or of
the second one if a connection has more pages.
-/

namespace GraphPipeline

/-- Every request is answered in time, with success, and without errors.  The
data depend on the values of the variables alone. -/
def Transport.Answers {σ : Type} (transport : Transport σ) (timeout : Duration)
    (answer : Entries Json → Json) : Prop :=
  ∀ request state, ∃ response,
    ((transport request).run state).1.within timeout = .ok response ∧
      response.status.isSuccess = true ∧
        Envelope.ofBytes? response.body =
          some { data := some (answer request.variableValues), errors := [] }

/-- The pages of a connection come to an end, no more than a number of them
being fetched after the one given.  The nodes are those of all pages in
order. -/
inductive Subquery.Ends (subquery : Subquery) (answer : Entries Json → Json)
    (values : Entries Json) : Nat → Page → List Json → Prop where
  | last {budget : Nat} {page : Page} :
      page.hasNextPage = false →
        Ends subquery answer values budget page page.nodes
  | next {budget : Nat} {page following : Page} {cursor : String}
      {nodes : List Json} :
      page.hasNextPage = true → page.endCursor = some cursor →
        Run.laterPage subquery
            (answer (Entries.put values subquery.variableName
              (.string cursor))) =
          .ok following →
        Ends subquery answer values budget following nodes →
          Ends subquery answer values (budget + 1) page (page.nodes ++ nodes)

theorem Subquery.Ends.begins {subquery : Subquery}
    {answer : Entries Json → Json} {values : Entries Json} {budget : Nat}
    {page : Page} {nodes : List Json}
    (ends : subquery.Ends answer values budget page nodes) :
    page.nodes <+: nodes := by
  cases ends with
  | last _ => exact List.prefix_rfl
  | next _ _ _ _ => exact List.prefix_append _ _

theorem Subquery.Ends.finished {subquery : Subquery}
    {answer : Entries Json → Json} {values : Entries Json} {budget : Nat}
    {page : Page} {nodes : List Json}
    (ends : subquery.Ends answer values budget page nodes)
    (finished : page.hasNextPage = false) : nodes = page.nodes := by
  cases ends with
  | last _ => rfl
  | next more _ _ _ =>
      rw [finished] at more
      cases more

namespace Run

/-- The nodes of the connections that are followed. -/
def nodesOf (nodes : SubqueryId → List Json)
    (pending : List (Subquery × Page)) :
    AllNodes :=
  pending.map fun entry => (entry.1.id, nodes entry.1.id)

variable {σ α β : Type}

/-- From any session, the run has this outcome. -/
def Returns (run : Run σ α) (outcome : Except ExecutionError α) : Prop :=
  ∀ session, ∃ later, run.run.run session = (outcome, later)

theorem run_bind (first : Run σ α) (next : α → Run σ β) (session : Session σ) :
    (first >>= next).run.run session =
      match first.run.run session with
      | (.ok value, later) => (next value).run.run later
      | (.error error, later) => (.error error, later) := by
  simp only [bind, ExceptT.bind, ExceptT.run, ExceptT.mk, StateT.bind,
    StateT.run]
  cases first session with
  | mk outcome later => cases outcome <;> rfl

theorem returns_pure (value : α) : Returns (pure value : Run σ α) (.ok value) :=
  fun session => ⟨session, rfl⟩

theorem returns_liftM (outcome : Except ExecutionError α) :
    Returns (liftM outcome : Run σ α) outcome :=
  fun session => ⟨session, by cases outcome <;> rfl⟩

theorem Returns.bind {first : Run σ α} {next : α → Run σ β} {value : α}
    {outcome : Except ExecutionError β} (returns : Returns first (.ok value))
    (continues : Returns (next value) outcome) :
    Returns (first >>= next) outcome := by
  intro session
  obtain ⟨middle, same⟩ := returns session
  obtain ⟨later, sameNext⟩ := continues middle
  exact ⟨later, by rw [run_bind, same]; exact sameNext⟩

theorem Returns.bind_error {first : Run σ α} {error : ExecutionError}
    (returns : Returns first (.error error)) (next : α → Run σ β) :
    Returns (first >>= next) (.error error) := by
  intro session
  obtain ⟨later, same⟩ := returns session
  exact ⟨later, by rw [run_bind, same]⟩

section answers

variable {transport : Transport σ} {options : ClientOptions}
  {answer : Entries Json → Json}

theorem send_returns {timeout : Duration} {request : Request}
    {response : Response} {session : Session σ}
    (arrived :
      ((transport request).run session.transport).1.within timeout =
        .ok response) :
    ∃ later, (send transport timeout request).run.run session =
      (.ok response, later) := by
  have reads :
      (get : Run σ (Session σ)).run.run session = (.ok session, session) := rfl
  have writes :
      ∀ later, (set later : Run σ PUnit).run.run session = (.ok ⟨⟩, later) :=
    fun _ => rfl
  unfold send
  rw [run_bind, reads]
  cases replied : (transport request).run session.transport with
  | mk reply state =>
      rw [replied] at arrived
      dsimp only at arrived ⊢
      rw [replied]
      dsimp only
      rw [run_bind, writes]
      dsimp only
      rw [arrived]
      exact ⟨_, rfl⟩

theorem fetchData_returns (answers : transport.Answers options.timeout answer)
    (request : Request) :
    Returns (fetchData transport options.timeout request)
      (.ok (answer request.variableValues)) := by
  intro session
  obtain ⟨response, arrived, success, body⟩ := answers request session.transport
  obtain ⟨later, sent⟩ := send_returns arrived
  have read : dataOf response = .ok (answer request.variableValues) := by
    simp [dataOf, body, success]
  unfold fetchData
  rw [run_bind, sent]
  dsimp only
  rw [read]
  exact ⟨later, rfl⟩

theorem followPages_returns (answers : transport.Answers options.timeout answer)
    (request : Request) {subquery : Subquery} {budget : Nat} {page : Page}
    {nodes : List Json}
    (ends : subquery.Ends answer request.variableValues budget page nodes) :
    Returns (followPages transport options request subquery budget page)
      (.ok nodes) := by
  induction ends with
  | last finished =>
      unfold followPages
      rw [finished]
      exact returns_pure _
  | next more hasCursor read _ induction =>
      unfold followPages
      rw [more, hasCursor]
      refine (fetchData_returns answers _).bind ?_
      rw [read]
      refine (returns_liftM _).bind (induction.bind ?_)
      exact returns_pure _

theorem followAll_returns (answers : transport.Answers options.timeout answer)
    (request : Request) {nodes : SubqueryId → List Json}
    {pending : List (Subquery × Page)}
    (ends : ∀ entry ∈ pending, entry.1.Ends answer request.variableValues
      (options.maxPages - 1) entry.2 (nodes entry.1.id)) :
    Returns (followAll transport options request pending)
      (.ok (nodesOf nodes pending)) := by
  induction pending with
  | nil => exact returns_pure _
  | cons entry rest induction =>
      have first :=
        followPages_returns answers request (ends entry List.mem_cons_self)
      have others :=
        induction fun other member => ends other (List.mem_cons_of_mem _ member)
      unfold followAll
      exact first.bind (others.bind (returns_pure _))

theorem resolve_failed {plan : Plan} {data : Json} {error : ExtractionError}
    (failed : plan.program.collect data = .error error) (request : Request) :
    Returns (resolve transport options plan request data)
      (.error (.extraction error)) := by
  unfold resolve
  rw [failed]
  exact (returns_liftM _).bind_error _

theorem resolve_finished {plan : Plan} {data value : Json} {pages : Pages}
    (collected : plan.program.collect data = .ok (value, pages))
    (finished : unfinished plan.subqueries pages = []) (request : Request) :
    Returns (resolve transport options plan request data) (.ok value) := by
  unfold resolve
  rw [collected]
  refine (returns_liftM _).bind ?_
  dsimp only
  rw [finished]
  exact returns_pure value

/-- If some connections have more pages, the result is that of the second
evaluation. -/
theorem resolve_followed (answers : transport.Answers options.timeout answer)
    {plan : Plan} {data value : Json} {pages : Pages} (request : Request)
    (nodes : SubqueryId → List Json)
    (collected : plan.program.collect data = .ok (value, pages))
    (more : unfinished plan.subqueries pages ≠ [])
    (ends : ∀ entry ∈ unfinished plan.subqueries pages,
      entry.1.Ends answer request.variableValues (options.maxPages - 1) entry.2
        (nodes entry.1.id)) :
    Returns (resolve transport options plan request data)
      (extracted
        (plan.program.replay (nodesOf nodes (unfinished plan.subqueries pages))
        data)) := by
  unfold resolve
  rw [collected]
  refine (returns_liftM _).bind ?_
  dsimp only
  split
  · contradiction
  · exact (followAll_returns answers request ends).bind (returns_liftM _)

theorem extracted_eq_ok {outcome : Except ExtractionError α} {value : α} :
    extracted outcome = .ok value ↔ outcome = .ok value := by
  cases outcome <;> simp [extracted]

/-- A run that has a value for every required variable returns what follows from
the data of its first response. -/
theorem plan_returns (answers : transport.Answers options.timeout answer)
    {plan : Plan} {values : Entries Json} {outcome : Except ExecutionError Json}
    (complete : missingVariable? plan.variableDefinitions values = none)
    (resolves : Returns (resolve transport options plan
      { query := plan.query,
        variableValues := withCursors plan.subqueries values }
      (answer (withCursors plan.subqueries values))) outcome) :
    Returns (Run.plan transport options plan values) outcome := by
  unfold Run.plan
  rw [complete]
  exact (fetchData_returns answers _).bind resolves

theorem plan_refuses {plan : Plan} {values : Entries Json} {name : String}
    (missing : missingVariable? plan.variableDefinitions values = some name) :
    Returns (Run.plan transport options plan values)
      (.error (.missingVariable name)) := by
  unfold Run.plan
  rw [missing]
  exact fun session => ⟨session, rfl⟩

end answers

end Run

end GraphPipeline
