import GraphPipeline.Proofs.Execution.Sessions

/-!
# Steps of a run

What each part of a run does on a transport: it comes to an outcome and leads
to a later session.
-/

namespace GraphPipeline

variable {σ : Type}

/-- What the transport replies to a request that is sent next. -/
def Session.reply (session : Session σ) (transport : Transport σ)
    (request : Request) :
    Reply :=
  ((transport request).run session.transport).1

variable {transport : Transport σ} {options : ClientOptions} {request : Request}
  {subquery : Subquery} {page : Page}

namespace Run

theorem run_pure {α : Type} (value : α) (session : Session σ) :
    (pure value : Run σ α).run.run session = (.ok value, session) :=
  rfl

theorem run_liftM {α : Type} (outcome : Except ExecutionError α)
    (session : Session σ) :
    (liftM outcome : Run σ α).run.run session = (outcome, session) := by
  cases outcome <;> rfl

theorem fetchData_run (timeout : Duration) (request : Request)
    (session : Session σ) :
    (fetchData transport timeout request).run.run session =
      ((session.reply transport request).data timeout,
       session.after transport request) := by
  have reads :
      (get : Run σ (Session σ)).run.run session = (.ok session, session) := rfl
  have writes :
      ∀ later, (set later : Run σ PUnit).run.run session = (.ok ⟨⟩, later) :=
    fun _ => rfl
  unfold fetchData Reply.data Session.reply Session.after send
  rw [run_bind, run_bind, reads]
  cases replied : (transport request).run session.transport with
  | mk reply state =>
      dsimp only
      rw [replied]
      dsimp only
      rw [run_bind, writes]
      cases reply.within timeout with
      | error error => rfl
      | ok response =>
          dsimp only
          rw [run_pure]
          exact run_liftM _ _

/-- One more page is asked for, and the pages after it if it is read. -/
theorem followPages_next {cursor : String} (more : page.hasNextPage = true)
    (hasCursor : page.endCursor = some cursor) (budget : Nat)
    (session : Session σ) :
    (followPages transport options request subquery (budget + 1) page).run.run
      session =
      match subquery.pageOf options.timeout
          (session.reply transport (request.atCursor subquery cursor)) with
      | .error error =>
          (.error error,
           session.after transport (request.atCursor subquery cursor))
      | .ok following =>
          Prod.map (Except.map (page.nodes ++ ·)) id
            ((followPages transport options request subquery budget
              following).run.run
              (session.after transport
                (request.atCursor subquery cursor))) := by
  have opened :
      followPages transport options request subquery (budget + 1) page =
        fetchData transport options.timeout
          (request.atCursor subquery cursor) >>= fun data =>
          liftM (laterPage subquery data) >>= fun following =>
            followPages transport options request subquery budget
              following >>= fun nodes =>
              pure (page.nodes ++ nodes) := by
    rw [followPages.eq_def]
    dsimp only
    rw [more, hasCursor]
    rfl
  rw [opened, run_bind, fetchData_run]
  unfold Subquery.pageOf
  cases (session.reply transport (request.atCursor subquery cursor)).data
    options.timeout with
  | error error => rfl
  | ok data =>
      dsimp only
      rw [run_bind, run_liftM]
      cases laterPage subquery data with
      | error error => rfl
      | ok following =>
          dsimp only
          rw [run_bind]
          cases (followPages transport options request subquery budget
            following).run.run _ with
          | mk outcome later => cases outcome <;> rfl

theorem followPages_finished (finished : page.hasNextPage = false)
    (budget : Nat) (session : Session σ) :
    (followPages transport options request subquery budget page).run.run
      session =
      (.ok page.nodes, session) := by
  unfold followPages
  rw [finished]
  rfl

theorem followPages_exceeded (more : page.hasNextPage = true)
    (session : Session σ) :
    (followPages transport options request subquery 0 page).run.run session =
      (.error (.pageLimitExceeded subquery.id options.maxPages), session) := by
  unfold followPages
  rw [more]
  rfl

theorem followPages_noCursor (more : page.hasNextPage = true)
    (noCursor : page.endCursor = none) (budget : Nat) (session : Session σ) :
    (followPages transport options request subquery (budget + 1) page).run.run
      session =
      (.error
         (.invalidResponse (.noEndCursor (ResponsePath.ofKeys subquery.path))),
       session) := by
  unfold followPages
  rw [more, noCursor]
  rfl

variable {session : Session σ}

theorem followAll_cons (rest : List (Subquery × Page)) :
    (followAll transport options request ((subquery, page) :: rest)).run.run
      session =
      match (followPages transport options request subquery
        (options.maxPages - 1)
          page).run.run session with
      | (.error error, later) => (.error error, later)
      | (.ok nodes, middle) =>
          Prod.map (Except.map ((subquery.id, nodes) :: ·)) id
            ((followAll transport options request rest).run.run middle) := by
  rw [followAll, run_bind]
  cases (followPages transport options request subquery (options.maxPages - 1)
    page).run.run session with
  | mk outcome middle =>
      cases outcome with
      | error error => rfl
      | ok nodes =>
          dsimp only
          rw [run_bind]
          cases (followAll transport options request rest).run.run middle with
          | mk outcome later => cases outcome <;> rfl

theorem resolve_unevaluated {plan : Plan} {data : Json}
    {error : ExtractionError}
    (failed : plan.program.collect data = .error error) :
    (resolve transport options plan request data).run.run session =
      (.error (.extraction error), session) := by
  unfold resolve
  rw [failed, run_bind]
  rfl

theorem resolve_last {plan : Plan} {data value : Json} {pages : Pages}
    (collected : plan.program.collect data = .ok (value, pages))
    (nothing : unfinished plan.subqueries pages = []) :
    (resolve transport options plan request data).run.run session =
      (.ok value, session) := by
  unfold resolve
  rw [collected, run_bind, run_liftM]
  dsimp only [extracted]
  rw [nothing]
  rfl

/-- If some connections have more pages, they are followed before the second
evaluation. -/
theorem resolve_more {plan : Plan} {data value : Json} {pages : Pages}
    (collected : plan.program.collect data = .ok (value, pages))
    (more : unfinished plan.subqueries pages ≠ []) :
    (resolve transport options plan request data).run.run session =
      match (followAll transport options request
          (unfinished plan.subqueries pages)).run.run session with
      | (.error error, later) => (.error error, later)
      | (.ok nodes, later) =>
        (extracted (plan.program.replay nodes data), later) := by
  unfold resolve
  rw [collected, run_bind, run_liftM]
  dsimp only [extracted]
  split
  · contradiction
  · rw [run_bind]
    cases (followAll transport options request
      (unfinished plan.subqueries pages)).run.run session with
    | mk outcome later =>
        cases outcome with
        | error error => rfl
        | ok nodes => exact run_liftM _ _

end Run

end GraphPipeline
