import GraphPipeline.Proofs.Execution.OneByOne
import GraphPipeline.Proofs.Execution.Replies
import GraphPipeline.Proofs.PageCompleteness

/-!
# All or nothing

A reply either provides data or fails with an error of its own.  A run goes on
as long as its requests are answered with data: the first reply that fails is
the last one that is asked for, and its error is the result of the run.
-/

namespace GraphPipeline

/-! ### Sequences of requests -/

namespace Session

variable {σ : Type} (transport : Transport σ)

/-- The session after some requests. -/
def afterAll : Session σ → List Request → Session σ
  | session, [] => session
  | session, request :: requests =>
    (session.after transport request).afterAll requests

/-- What the transport replies to some requests, one after the other. -/
def replies : Session σ → List Request → List Reply
  | _, [] => []
  | session, request :: requests =>
      session.reply transport request ::
        (session.after transport request).replies requests

variable {transport}

theorem afterAll_append (session : Session σ) (requests later : List Request) :
    session.afterAll transport (requests ++ later) =
      (session.afterAll transport requests).afterAll transport later := by
  induction requests generalizing session with
  | nil => rfl
  | cons request requests induction => exact induction _

theorem replies_append (session : Session σ) (requests later : List Request) :
    session.replies transport (requests ++ later) =
      session.replies transport requests ++
        (session.afterAll transport requests).replies transport later := by
  induction requests generalizing session with
  | nil => rfl
  | cons request requests induction =>
      exact congrArg (session.reply transport request :: ·) (induction _)

theorem length_replies (session : Session σ) (requests : List Request) :
    (session.replies transport requests).length = requests.length := by
  induction requests generalizing session with
  | nil => rfl
  | cons request requests induction => exact congrArg (· + 1) (induction _)

theorem sent_afterAll (session : Session σ) (requests : List Request) :
    (session.afterAll transport requests).sent = session.sent ++ requests := by
  induction requests generalizing session with
  | nil => exact (List.append_nil _).symm
  | cons request requests induction =>
      rw [afterAll, induction, Session.after, List.append_assoc]
      rfl

end Session

/-! ### Parts of a run -/

/-- Either all of some replies provide data, or the last one is the first to
fail, and its error is the outcome. -/
inductive Reply.Settled {α : Type} (timeout : Duration) :
    List Reply → Except ExecutionError α → Prop
  | provided {replies : List Reply} {outcome : Except ExecutionError α}
      (provide : ∀ reply ∈ replies, ∃ data, reply.data timeout = .ok data) :
      Settled timeout replies outcome
  | failed {replies : List Reply} {reply : Reply} {error : ExecutionError}
      (provide : ∀ reply ∈ replies, ∃ data, reply.data timeout = .ok data)
      (fails : reply.data timeout = .error error) :
      Settled timeout (replies ++ [reply]) (.error error)

namespace Reply.Settled

variable {α β : Type} {timeout : Duration} {replies : List Reply}

theorem append {earlier : List Reply} {outcome : Except ExecutionError α}
    (provide : ∀ reply ∈ earlier, ∃ data, reply.data timeout = .ok data)
    (settled : Settled timeout replies outcome) :
    Settled timeout (earlier ++ replies) outcome := by
  cases settled with
  | provided others =>
      exact .provided fun reply member =>
        (List.mem_append.mp member).elim (provide reply) (others reply)
  | failed others fails =>
      rw [← List.append_assoc]
      exact .failed
        (fun reply member =>
          (List.mem_append.mp member).elim (provide reply) (others reply))
        fails

theorem provided_of_ok {value : α}
    (settled : Settled timeout replies (.ok value)) :
    ∀ reply ∈ replies, ∃ data, reply.data timeout = .ok data := by
  cases settled with
  | provided provide => exact provide

/-- The error of some replies stays that of a longer action. -/
theorem error {error : ExecutionError}
    (settled : Settled timeout replies (.error error : Except _ α)) :
    Settled timeout replies (.error error : Except _ β) := by
  cases settled with
  | provided provide => exact .provided provide
  | failed provide fails => exact .failed provide fails

/-- A reply that fails is the last one. -/
theorem ends {outcome : Except ExecutionError α}
    (settled : Settled timeout replies outcome)
    {index : Nat} {reply : Reply} {error : ExecutionError}
    (found : replies[index]? = some reply)
    (fails : reply.data timeout = .error error) :
    outcome = .error error ∧ replies.length = index + 1 := by
  have fails_notMem : ∀ {others : List Reply},
      (∀ reply ∈ others, ∃ data, reply.data timeout = .ok data) →
        reply ∉ others := by
    intro others provide member
    obtain ⟨data, provided⟩ := provide reply member
    rw [fails] at provided
    cases provided
  cases settled with
  | provided provide =>
    exact absurd (List.mem_of_getElem? found) (fails_notMem provide)
  | @failed others last lastError provide lastFails =>
      by_cases inside : index < others.length
      · rw [List.getElem?_append_left inside] at found
        exact absurd (List.mem_of_getElem? found) (fails_notMem provide)
      · have atEnd : index - others.length = 0 := by
          by_contra beyond
          have nothing : [last][index - others.length]? = none :=
            List.getElem?_eq_none (Nat.pos_of_ne_zero beyond)
          rw [List.getElem?_append_right (Nat.le_of_not_lt inside),
            nothing] at found
          cases found
        have position : index = others.length := by omega
        subst position
        rw [List.getElem?_append_right (Nat.le_refl _), Nat.sub_self] at found
        obtain rfl : last = reply := Option.some.inj found
        rw [lastFails] at fails
        obtain rfl := Except.error.inj fails
        exact ⟨rfl, by simp⟩

end Reply.Settled

namespace Run

variable {σ α β : Type} {transport : Transport σ} {timeout : Duration}

/-- From every session, the action sends requests one after the other and stops
at the first reply that fails, with its error. -/
def StopsAtFailure (transport : Transport σ) (timeout : Duration)
    (action : Run σ α) : Prop :=
  ∀ session, ∃ requests,
    (action.run.run session).2 = session.afterAll transport requests ∧
      Reply.Settled timeout (session.replies transport requests)
        (action.run.run session).1

theorem stopsAtFailure_liftM (outcome : Except ExecutionError α) :
    StopsAtFailure transport timeout (liftM outcome : Run σ α) := by
  intro session
  rw [run_liftM]
  exact ⟨[], rfl, .provided fun _ member => absurd member List.not_mem_nil⟩

theorem stopsAtFailure_pure (value : α) :
    StopsAtFailure transport timeout (pure value : Run σ α) :=
  stopsAtFailure_liftM (.ok value)

theorem stopsAtFailure_throw (error : ExecutionError) :
    StopsAtFailure transport timeout (throw error : Run σ α) :=
  stopsAtFailure_liftM (.error error)

theorem StopsAtFailure.bind {first : Run σ α} {next : α → Run σ β}
    (stops : StopsAtFailure transport timeout first)
    (continues : ∀ value, StopsAtFailure transport timeout (next value)) :
    StopsAtFailure transport timeout (first >>= next) := by
  intro session
  obtain ⟨requests, later, settled⟩ := stops session
  rw [run_bind]
  cases ended : first.run.run session with
  | mk outcome middle =>
      simp only [ended] at later settled
      subst later
      cases outcome with
      | error error => exact ⟨requests, rfl, settled.error⟩
      | ok value =>
          obtain ⟨others, final, settledNext⟩ := continues value _
          refine ⟨requests ++ others, ?_, ?_⟩
          · rw [Session.afterAll_append]
            exact final
          · rw [Session.replies_append]
            exact settledNext.append settled.provided_of_ok

theorem fetchData_stopsAtFailure (request : Request) :
    StopsAtFailure transport timeout (fetchData transport timeout request) := by
  intro session
  rw [fetchData_run]
  refine ⟨[request], rfl, ?_⟩
  cases read : (session.reply transport request).data timeout with
  | ok data =>
    exact .provided
      fun reply member => ⟨data, List.mem_singleton.mp member ▸ read⟩
  | error error =>
      have first :
          ∀ reply ∈ ([] : List Reply), ∃ data, reply.data timeout = .ok data :=
        fun _ member => absurd member List.not_mem_nil
      exact .failed first read

section

variable {options : ClientOptions} {request : Request}

theorem followPages_stopsAtFailure (subquery : Subquery) (budget : Nat)
    (page : Page) :
    StopsAtFailure transport options.timeout
      (followPages transport options request subquery budget page) := by
  induction budget generalizing page with
  | zero =>
      unfold followPages
      split
      · exact stopsAtFailure_throw _
      · exact stopsAtFailure_pure _
  | succ budget induction =>
      unfold followPages
      split
      · cases page.endCursor with
        | none => exact stopsAtFailure_throw _
        | some cursor =>
            refine (fetchData_stopsAtFailure _).bind fun data => ?_
            refine (stopsAtFailure_liftM _).bind fun next => ?_
            exact (induction next).bind fun nodes => stopsAtFailure_pure _
      · exact stopsAtFailure_pure _

theorem followAll_stopsAtFailure (pending : List (Subquery × Page)) :
    StopsAtFailure transport options.timeout
      (followAll transport options request pending) := by
  induction pending with
  | nil => exact stopsAtFailure_pure _
  | cons entry pending induction =>
      exact (followPages_stopsAtFailure _ _ _).bind fun nodes =>
        induction.bind fun others => stopsAtFailure_pure _

theorem resolve_stopsAtFailure (planned : Plan) (data : Json) :
    StopsAtFailure transport options.timeout
      (resolve transport options planned request data) := by
  refine (stopsAtFailure_liftM _).bind fun evaluated => ?_
  obtain ⟨value, pages⟩ := evaluated
  cases pending : unfinished planned.subqueries pages with
  | nil => simpa only [pending] using stopsAtFailure_pure value
  | cons entry others =>
      simp only [pending]
      exact (followAll_stopsAtFailure _).bind
        fun nodes => stopsAtFailure_liftM _

theorem plan_stopsAtFailure (planned : Plan) (values : Entries Json) :
    StopsAtFailure transport options.timeout
      (plan transport options planned values) := by
  unfold plan
  split
  · exact stopsAtFailure_throw _
  · exact (fetchData_stopsAtFailure _).bind
      fun data => resolve_stopsAtFailure planned data

end

end Run

namespace CompiledOperation

section

variable {σ : Type} (compiled : CompiledOperation) (transport : Transport σ)
  (options : ClientOptions) (values : Entries Json) (state : σ)

/-- What the transport replies to the requests of a run. -/
def replies : List Reply :=
  (startSession state).replies transport
    (compiled.plan.run transport options values state).2.sent

/-- A run has a value only if every reply provides data, and stops at the first
one that does not. -/
structure AllOrNothing : Prop where
  /-- The requests are sent one after the other. -/
  inTurn : (compiled.plan.run transport options values state).2 =
    (startSession state).afterAll transport
      (compiled.plan.run transport options values state).2.sent
  /-- A reply that does not provide data fails with an error of its own. -/
  answered : ∀ reply ∈ compiled.replies transport options values state,
    (∃ data, reply.Provides options.timeout data) ∨
      ∃ error, reply.FailsWith options.timeout error
  succeeds :
    ∀ value, (compiled.plan.run transport options values state).1 = .ok value →
      ∀ reply ∈ compiled.replies transport options values state,
        ∃ data, reply.Provides options.timeout data
  /-- Errors in a body are the result of the run, whatever the status and the
  data. -/
  protocol : ∀ index reply response envelope,
    (compiled.replies transport options values state)[index]? = some reply →
      reply.within options.timeout = .ok response →
      Envelope.ofBytes? response.body = some envelope → envelope.errors ≠ [] →
      (compiled.plan.run transport options values state).1 =
          .error (.protocol envelope.errors) ∧
        (compiled.plan.run transport options values state).2.sent.length =
          index + 1
  /-- So is the error of every other reply that fails. -/
  fails : ∀ index reply error,
    (compiled.replies transport options values state)[index]? = some reply →
      reply.FailsWith options.timeout error →
      (compiled.plan.run transport options values state).1 = .error error ∧
        (compiled.plan.run transport options values state).2.sent.length =
          index + 1

end

/-- Every run is all or nothing, on every transport. -/
theorem allOrNothing {σ : Type} (compiled : CompiledOperation)
    (transport : Transport σ) (options : ClientOptions) (values : Entries Json)
    (state : σ) :
    compiled.AllOrNothing transport options values state := by
  have stops : Run.StopsAtFailure transport options.timeout
      (Run.plan transport options compiled.plan values) :=
    Run.plan_stopsAtFailure compiled.plan values
  obtain ⟨requests, final, settled⟩ := stops (startSession state)
  change (compiled.plan.run transport options values state).2 = _ at final
  change Reply.Settled _ _ (compiled.plan.run transport options values state).1
    at settled
  have sent :
      (compiled.plan.run transport options values state).2.sent = requests := by
    rw [final, Session.sent_afterAll]
    rfl
  have sameReplies : compiled.replies transport options values state =
      (startSession state).replies transport requests := by
    rw [replies, sent]
  have ends : ∀ index reply error,
      (compiled.replies transport options values state)[index]? = some reply →
        reply.FailsWith options.timeout error →
        (compiled.plan.run transport options values state).1 = .error error ∧
          (compiled.plan.run transport options values state).2.sent.length =
            index + 1 := by
    intro index reply error found fails
    rw [sameReplies] at found
    obtain ⟨outcome, last⟩ := settled.ends found fails.data_eq
    rw [Session.length_replies] at last
    exact ⟨outcome, sent ▸ last⟩
  constructor
  · rw [sent]
    exact final
  · intro reply _
    cases read : reply.data options.timeout with
    | ok data => exact Or.inl ⟨data, Reply.provides_of_data read⟩
    | error error => exact Or.inr ⟨error, Reply.failsWith_of_data read⟩
  · intro value success reply member
    rw [success] at settled
    obtain ⟨data, read⟩ := settled.provided_of_ok reply (sameReplies ▸ member)
    exact ⟨data, Reply.provides_of_data read⟩
  · exact fun index reply response envelope found arrived parsed errors =>
      ends index reply _ found (.errors arrived parsed errors)
  · exact ends

end CompiledOperation

namespace Sample

/-- A body with errors, which has data as well. -/
def brokenBody : List UInt8 :=
  ascii "\x7b\"data\":\x7b\x7d,\"errors\":[\x7b\"message\":\"broken\"\x7d]\x7d"

def brokenReply : Reply :=
  { delay := ⟨0⟩, outcome := .ok { status := .ok, body := brokenBody } }

/-- The second page of the items comes with errors. -/
def brokenPages : Transport Unit := fun request =>
  match (Entries.lookup? request.variableValues "cursor0").bind Json.text? with
  | some _ => pure brokenReply
  | none => twoPagesTransport request

end Sample

namespace CompiledOperation

/-- The nodes of the first page are given up with the second page. -/
theorem allOrNothing_brokenPages :
    ∃ compiled, compile (Sample.allTitles (.root .query) []) = .ok compiled ∧
      (compiled.plan.run Sample.brokenPages Sample.options [] ()).1 =
          .error (.protocol [GraphqlError.ofMessage "broken"]) ∧
        (compiled.plan.run Sample.brokenPages Sample.options []
            ()).2.sent.length = 2 := by
  have computed :
      (compile (Sample.allTitles (.root .query) [])).map (fun compiled =>
      (compiled.replies Sample.brokenPages Sample.options [] ())[1]?) =
      .ok (some Sample.brokenReply) := by
    cbv
  have parsed : Envelope.ofBytes? Sample.brokenBody =
      some { data := some (.object [])
             errors := [GraphqlError.ofMessage "broken"] } := by
    cbv
  obtain ⟨compiled, success, second⟩ := Evaluate.map_eq_ok.mp computed
  exact ⟨compiled, success,
    (allOrNothing compiled Sample.brokenPages Sample.options [] ()).protocol 1
      Sample.brokenReply _ _ second rfl parsed (List.cons_ne_nil _ _)⟩

end CompiledOperation

end GraphPipeline
