import GraphPipeline.Execution.FollowUps
import GraphPipeline.Proofs.Execution.Requests

/-!
# One connection after the other

A transport that replies at once leaves no choice: each connection comes to its
end before the next one starts.  This is one of the interleavings, whatever
state the transport keeps, so `Plan.run` gives one of the runs of an operation.
-/

namespace GraphPipeline

variable {σ : Type} {transport : Transport σ}
  {replies : Request → Reply → Prop} {options : ClientOptions}
  {request : Request}

/-- Every reply of the transport is one that may come. -/
def Transport.Gives (transport : Transport σ)
    (replies : Request → Reply → Prop) : Prop :=
  ∀ (session : Session σ) (own : Request),
    replies own (session.reply transport own)

/-- A session has sent some first requests and those of a state. -/
def Session.Sends (session : Session σ) (first : List Request)
    (state : FollowUps) : Prop :=
  session.sent = first ++ state.sent.map (·.2)

/-- No connection is followed, and none has failed. -/
structure FollowUps.Idle (state : FollowUps) : Prop where
  running : state.running = []
  failure : state.failure = none

/-- What is left when a connection is followed alone: its nodes, or its
failure. -/
inductive FollowUps.Leaves (before : FollowUps) (id : SubqueryId) :
    Except ExecutionError (List Json) → FollowUps → Prop where
  | ok {nodes : List Json} {after : FollowUps} :
      after.Idle → after.waiting = before.waiting →
      after.finished = before.finished ++ [(id, nodes)] →
      Leaves before id (.ok nodes) after
  | error {error : ExecutionError} {after : FollowUps} :
      after.failure = some (id, error) → Leaves before id (.error error) after

/-- Only the connections that wait and the nodes there are matter before. -/
theorem FollowUps.Leaves.congr {before earlier after : FollowUps}
    {id : SubqueryId} {outcome : Except ExecutionError (List Json)}
    (leaves : before.Leaves id outcome after)
    (waiting : before.waiting = earlier.waiting)
    (finished : before.finished = earlier.finished) :
    earlier.Leaves id outcome after := by
  cases leaves with
  | ok idle sameWaiting nodes =>
      exact .ok idle (sameWaiting.trans waiting) (finished ▸ nodes)
  | error failure => exact .error failure

section

variable {before : FollowUps} {handle : Handle} {first : List Request}
  {session : Session σ}

/-- What no request is sent for leaves the requests as they are. -/
theorem Session.Sends.record (sends : session.Sends first before)
    (id : SubqueryId) (received : Option Reply) :
    session.Sends first (before.record id none received) := by
  simpa [Session.Sends, FollowUps.record] using sends

/-! ### Steps of the only connection that runs -/

namespace FollowUps

/-- The only connection that runs has sent a request. -/
def asking (before : FollowUps) (handle : Handle) (own : Request) :
    FollowUps :=
  { before.record handle.subquery.id (some own) none with
    running := [{ handle with asked := some own }] }

theorem asking_failure (noFailure : before.failure = none) (own : Request) :
    (before.asking handle own).failure = none :=
  noFailure

theorem sends_asking (sends : session.Sends first before) (own : Request) :
    (session.after transport own).Sends first (before.asking handle own) := by
  unfold Session.Sends at sends ⊢
  simp [asking, record, Session.after, sends]

theorem asking_step {cursor : String} (noFailure : before.failure = none)
    (alone : before.running = [handle]) (idle : handle.asked = none)
    (more : handle.page.hasNextPage = true)
    (below : handle.pages < options.maxPages)
    (hasCursor : handle.page.endCursor = some cursor) :
    before.Step replies options request
      (before.asking handle (request.atCursor handle.subquery cursor)) := by
  have among : before.running = [] ++ handle :: [] := alone
  exact .act noFailure among (.send idle more below hasCursor)

/-- The only connection that runs has read the page in a reply. -/
def reading (before : FollowUps) (handle : Handle) (own : Request)
    (reply : Reply) (page : Page) : FollowUps :=
  { (before.asking handle own).record handle.subquery.id none (some reply) with
    running :=
      [{ handle with
          nodes := handle.nodes ++ page.nodes
          page
          pages := handle.pages + 1
          asked := none }] }

section

variable {own : Request} {reply : Reply} {page : Page}

theorem reading_step (noFailure : before.failure = none)
    (comes : replies own reply)
    (read : handle.subquery.pageOf options.timeout reply = .ok page) :
    (before.asking handle own).Step replies options request
      (before.reading handle own reply page) := by
  have among : (before.asking handle own).running =
      [] ++ { handle with asked := some own } :: [] := rfl
  exact .act (asking_failure noFailure own) among (.receive rfl comes read)

theorem reading_failure (noFailure : before.failure = none) :
    (before.reading handle own reply page).failure = none :=
  noFailure

theorem sends_reading (sends : session.Sends first (before.asking handle own)) :
    session.Sends first (before.reading handle own reply page) :=
  sends.record handle.subquery.id (some reply)

end

/-- The only connection that runs has no more pages. -/
theorem finished_leaves {earlier : List Json}
    (noFailure : before.failure = none) (alone : before.running = [handle])
    (idle : handle.asked = none) (last : handle.page.hasNextPage = false)
    (own : handle.nodes = earlier ++ handle.page.nodes)
    (sends : session.Sends first before) :
    ∃ after, before.Reaches replies options request after ∧
      session.Sends first after ∧
      before.Leaves handle.subquery.id (.ok (earlier ++ handle.page.nodes))
        after := by
  have among : before.running = [] ++ handle :: [] := alone
  exact ⟨_, .single (.finish noFailure among idle last), sends,
    .ok ⟨rfl, noFailure⟩ rfl (by rw [own])⟩

/-- The only connection that runs fails. -/
theorem failed_leaves {reply : Option Reply} {error : ExecutionError}
    (noFailure : before.failure = none) (alone : before.running = [handle])
    (fails : handle.Fails replies options reply error)
    (sends : session.Sends first before) :
    ∃ after, before.Reaches replies options request after ∧
      session.Sends first after ∧
      before.Leaves handle.subquery.id (.error error) after := by
  have among : before.running = [] ++ handle :: [] := alone
  exact ⟨_, .single (.fail noFailure among fails), sends.record _ reply,
    .error rfl⟩

end FollowUps

namespace Run

/-- Following one connection is an interleaving in which no other takes a
step. -/
theorem followPages_leaves (gives : transport.Gives replies) {budget : Nat}
    {earlier : List Json} (noFailure : before.failure = none)
    (alone : before.running = [handle]) (idle : handle.asked = none)
    (own : handle.nodes = earlier ++ handle.page.nodes)
    (room : budget = options.maxPages - handle.pages)
    (sends : session.Sends first before) :
    ∃ after, before.Reaches replies options request after ∧
      ((followPages transport options request handle.subquery budget
        handle.page).run.run session).2.Sends first after ∧
      before.Leaves handle.subquery.id
        (((followPages transport options request handle.subquery budget
          handle.page).run.run session).1.map (earlier ++ ·)) after := by
  induction budget generalizing before handle earlier session with
  | zero =>
      cases more : handle.page.hasNextPage with
      | false =>
          rw [followPages_finished more]
          exact FollowUps.finished_leaves noFailure alone idle more own sends
      | true =>
          rw [followPages_exceeded more]
          have full := Nat.le_of_sub_eq_zero room.symm
          exact FollowUps.failed_leaves noFailure alone
            (.exceeded idle more full) sends
  | succ budget induction =>
      cases more : handle.page.hasNextPage with
      | false =>
          rw [followPages_finished more]
          exact FollowUps.finished_leaves noFailure alone idle more own sends
      | true =>
          have below : handle.pages < options.maxPages := by omega
          cases hasCursor : handle.page.endCursor with
          | none =>
              rw [followPages_noCursor more hasCursor]
              exact FollowUps.failed_leaves noFailure alone
                (.noCursor idle more below hasCursor) sends
          | some cursor =>
              rw [followPages_next more hasCursor]
              have asks : before.Step replies options request _ :=
                FollowUps.asking_step noFailure alone idle more below hasCursor
              have comes :=
                gives session (request.atCursor handle.subquery cursor)
              have going : (before.asking handle _).failure = none :=
                FollowUps.asking_failure noFailure
                  (request.atCursor handle.subquery cursor)
              have sent : (session.after transport _).Sends first
                  (before.asking handle _) :=
                FollowUps.sends_asking sends
                  (request.atCursor handle.subquery cursor)
              cases read : handle.subquery.pageOf options.timeout
                  (session.reply transport
                    (request.atCursor handle.subquery cursor)) with
              | error error =>
                  obtain ⟨after, reaches, later, leaves⟩ :=
                    FollowUps.failed_leaves going rfl
                      (.reply rfl comes read) sent
                  exact ⟨after, reaches.head asks, later,
                    leaves.congr rfl rfl⟩
              | ok following =>
                  have reads : FollowUps.Step replies options request _ _ :=
                    FollowUps.reading_step noFailure comes read
                  have left : budget =
                      options.maxPages - (handle.pages + 1) := by omega
                  obtain ⟨after, reaches, later, leaves⟩ :=
                    induction (FollowUps.reading_failure noFailure) rfl rfl rfl
                      left (FollowUps.sends_reading sent)
                  have joined : ∀ outcome : Except ExecutionError (List Json),
                      (outcome.map (handle.page.nodes ++ ·)).map (earlier ++ ·)
                        = outcome.map (handle.nodes ++ ·) := by
                    intro outcome
                    cases outcome <;> simp [Except.map, own]
                  refine ⟨after, (reaches.head reads).head asks, later, ?_⟩
                  dsimp only [Prod.map_fst]
                  rw [joined]
                  exact leaves.congr rfl rfl

/-- The connection that has waited longest is followed to its end. -/
theorem followFirst_leaves (options : ClientOptions) (request : Request)
    (gives : transport.Gives replies)
    {subquery : Subquery} {page : Page} {rest : List (Subquery × Page)}
    (idle : before.Idle) (waiting : before.waiting = (subquery, page) :: rest)
    (sends : session.Sends first before) :
    ∃ after, before.Reaches replies options request after ∧
      ((followPages transport options request subquery (options.maxPages - 1)
        page).run.run session).2.Sends first after ∧
      { before with waiting := rest }.Leaves subquery.id
        ((followPages transport options request subquery (options.maxPages - 1)
          page).run.run session).1 after := by
  have room : before.running.length < max 1 options.concurrentHandles := by
    rw [idle.running, List.length_nil]
    omega
  let started : FollowUps :=
    { before with
      waiting := rest
      running := before.running ++ [.start subquery page] }
  have starts : before.Step replies options request started :=
    .start idle.failure waiting room
  have alone : started.running = [.start subquery page] := by
    change before.running ++ _ = _
    rw [idle.running, List.nil_append]
  have going : started.failure = none := idle.failure
  have sent : session.Sends first started := sends
  have own : page.nodes = [] ++ page.nodes := rfl
  obtain ⟨after, reaches, later, leaves⟩ :=
    followPages_leaves gives going alone rfl own rfl sent
  have unchanged : ∀ outcome : Except ExecutionError (List Json),
      outcome.map ([] ++ ·) = outcome := by
    intro outcome
    cases outcome <;> rfl
  rw [unchanged] at leaves
  exact ⟨after, reaches.head starts, later, leaves.congr rfl rfl⟩

/-- Following all connections one after the other is an interleaving. -/
theorem followAll_concludes (options : ClientOptions) (request : Request)
    (gives : transport.Gives replies)
    {pending : List (Subquery × Page)} (idle : before.Idle)
    (waiting : before.waiting = pending) (sends : session.Sends first before) :
    ∃ after, before.Reaches replies options request after ∧
      ((followAll transport options request pending).run.run
        session).2.Sends first after ∧
      match ((followAll transport options request pending).run.run
        session).1 with
      | .ok nodes =>
          after.Complete ∧ after.finished = before.finished ++ nodes
      | .error error => ∃ id, after.failure = some (id, error) := by
  induction pending generalizing before session with
  | nil =>
      exact ⟨before, .refl, sends, ⟨waiting, idle.running, idle.failure⟩,
        (List.append_nil _).symm⟩
  | cons entry rest induction =>
      obtain ⟨subquery, page⟩ := entry
      obtain ⟨middle, reaches, sent, leaves⟩ :=
        followFirst_leaves options request gives idle waiting sends
      rw [followAll_cons]
      cases ended : (followPages transport options request subquery
          (options.maxPages - 1) page).run.run session with
      | mk outcome between =>
          rw [ended] at sent leaves
          cases leaves with
          | error failure => exact ⟨middle, reaches, sent, _, failure⟩
          | ok idle waiting finished =>
              obtain ⟨after, others, later, concludes⟩ :=
                induction idle waiting sent
              refine ⟨after, reaches.trans others, later, ?_⟩
              dsimp only [Prod.map_fst]
              cases result : ((followAll transport options request
                  rest).run.run between).1 with
              | error error =>
                  rw [result] at concludes
                  exact concludes
              | ok nodes =>
                  rw [result] at concludes
                  refine ⟨concludes.1, ?_⟩
                  rw [concludes.2, finished, List.append_assoc]
                  rfl

end Run

end

/-! ### Runs of an operation -/

namespace CompiledOperation

/-- The session before the first request. -/
def startSession (state : σ) : Session σ := { transport := state, sent := [] }

variable {compiled : CompiledOperation} {values : Entries Json}

/-- What follows the first evaluation is an interleaving that comes to its
end. -/
theorem resolve_concludes (options : ClientOptions) (values : Entries Json)
    (gives : transport.Gives replies) {data value : Json} {pages : Pages}
    (collected : compiled.program.collect data = .ok (value, pages))
    (session : Session σ) :
    ∃ state, compiled.FollowsUp replies options values pages state ∧
      state.Ended ∧
      ((Run.resolve transport options compiled.plan
        (compiled.firstRequest values) data).run.run session).1 =
          compiled.conclusion data value pages state ∧
      ((Run.resolve transport options compiled.plan
        (compiled.firstRequest values) data).run.run session).2.Sends
          session.sent state := by
  have first : ∀ pending,
      session.Sends session.sent (FollowUps.start pending) :=
    fun _ => (List.append_nil _).symm
  unfold conclusion FollowsUp
  cases pending : Run.unfinished compiled.subqueries pages with
  | nil =>
      rw [Run.resolve_last collected pending]
      exact ⟨_, .refl, Or.inl ⟨rfl, rfl, rfl⟩, rfl, first []⟩
  | cons entry rest =>
      have more : Run.unfinished compiled.plan.subqueries pages ≠ [] := by
        change Run.unfinished compiled.subqueries pages ≠ []
        rw [pending]
        exact List.cons_ne_nil entry rest
      obtain ⟨state, reaches, sends, concludes⟩ :=
        Run.followAll_concludes options (compiled.firstRequest values) gives
          ⟨rfl, rfl⟩ rfl (first (entry :: rest))
      dsimp only [FollowUps.start, List.nil_append] at sends concludes
      refine ⟨state, reaches, ?_⟩
      rw [Run.resolve_more collected more]
      change Run.unfinished compiled.plan.subqueries pages = _ at pending
      rw [pending]
      cases followed : (Run.followAll transport options
          (compiled.firstRequest values) (entry :: rest)).run.run session with
      | mk outcome later =>
          rw [followed] at sends concludes
          cases outcome with
          | error error =>
              obtain ⟨id, failure⟩ := concludes
              refine ⟨Or.inr (by simp [failure]), ?_, sends⟩
              rw [failure]
          | ok nodes =>
              obtain ⟨complete, finished⟩ := concludes
              refine ⟨Or.inl complete, ?_, sends⟩
              rw [complete.failure, finished]
              rfl

theorem run_refused {state : σ} {name : String}
    (missing : Run.missingVariable? compiled.plan.variableDefinitions values =
      some name) :
    compiled.plan.run transport options values state =
      (.error (.missingVariable name), startSession state) := by
  unfold Plan.run Run.plan
  rw [missing]
  rfl

/-- A run goes on with the data in the reply to its first request. -/
theorem run_begun {state : σ}
    (complete : Run.missingVariable? compiled.plan.variableDefinitions values =
      none) :
    compiled.plan.run transport options values state =
      match ((startSession state).reply transport
          (compiled.firstRequest values)).data options.timeout with
      | .error error =>
          (.error error,
            (startSession state).after transport (compiled.firstRequest values))
      | .ok data =>
          (Run.resolve transport options compiled.plan
            (compiled.firstRequest values) data).run.run
              ((startSession state).after transport
                (compiled.firstRequest values)) := by
  unfold Plan.run Run.plan
  rw [complete]
  dsimp only
  rw [Run.run_bind]
  have fetched := @Run.fetchData_run _ transport options.timeout
    (compiled.firstRequest values) (startSession state)
  unfold firstRequest startSession at *
  rw [fetched]
  cases Reply.data _ options.timeout <;> rfl

/-- On a transport that replies at once, an operation runs as one of its
runs. -/
theorem run_runs (compiled : CompiledOperation) (options : ClientOptions)
    (values : Entries Json) (gives : transport.Gives replies) (state : σ) :
    ∃ reply followUps,
      compiled.Runs replies options values reply followUps
        (compiled.plan.run transport options values state).1 ∧
      (compiled.plan.run transport options values state).2.sent =
        compiled.requests values reply followUps ∧
      ∀ first, reply = some first → first =
        (startSession state).reply transport
          (compiled.firstRequest values) := by
  cases complete :
      Run.missingVariable? compiled.plan.variableDefinitions values with
  | some name =>
      rw [run_refused complete]
      exact ⟨none, _, .refused complete, rfl, fun _ same => by cases same⟩
  | none =>
      have replied := gives (startSession state) (compiled.firstRequest values)
      have own : ∀ first, some ((startSession state).reply transport
          (compiled.firstRequest values)) = some first → first =
            (startSession state).reply transport
              (compiled.firstRequest values) :=
        fun _ same => (Option.some.inj same).symm
      rw [run_begun complete]
      cases answered : ((startSession state).reply transport
          (compiled.firstRequest values)).data options.timeout with
      | error error =>
          exact ⟨some _, _, .unanswered complete replied answered, rfl, own⟩
      | ok data =>
          cases collected : compiled.program.collect data with
          | error error =>
              dsimp only
              rw [Run.resolve_unevaluated collected]
              exact ⟨some _, _, .unevaluated complete replied answered
                collected, rfl, own⟩
          | ok found =>
              obtain ⟨value, pages⟩ := found
              obtain ⟨followUps, follows, ended, outcome, sends⟩ :=
                resolve_concludes options values gives collected
                  ((startSession state).after transport
                    (compiled.firstRequest values))
              refine ⟨some _, followUps, ?_, sends, own⟩
              dsimp only
              rw [outcome]
              exact .followed ⟨complete, replied, answered, collected⟩ follows
                ended

end CompiledOperation

end GraphPipeline
