import GraphPipeline.Proofs.Execution.Interleaving

/-!
# Replies that depend on requests alone

If the reply to a request depends on its body alone, what becomes of a
connection does not depend on the steps of the others: it is what becomes of it
when it is followed alone.
-/

namespace GraphPipeline

section

variable (answer : String → Reply) (options : ClientOptions)
  (request : Request)

/-- What becomes of a connection that is followed alone after a page: the nodes
of the pages that come later, and the requests for them. -/
def Subquery.remaining (subquery : Subquery) :
    Nat → Page → Except ExecutionError (List Json) × List Request
  | budget, page =>
      if page.hasNextPage then
        match budget, page.endCursor with
        | 0, _ =>
            (.error (.pageLimitExceeded subquery.id options.maxPages), [])
        | _ + 1, none =>
            (.error (.invalidResponse
              (.noEndCursor (ResponsePath.ofKeys subquery.path))), [])
        | budget + 1, some cursor =>
            let asked := request.atCursor subquery cursor
            match subquery.pageOf options.timeout (answer asked.body) with
            | .error error => (.error error, [asked])
            | .ok following =>
                let (outcome, sent) := remaining subquery budget following
                (outcome.map (following.nodes ++ ·), asked :: sent)
      else (.ok [], [])

/-- What becomes of a connection that is followed alone from its first page
on. -/
def Subquery.alone (subquery : Subquery) (first : Page) :
    Except ExecutionError (List Json) × List Request :=
  let (outcome, sent) :=
    subquery.remaining answer options request (options.maxPages - 1) first
  (outcome.map (first.nodes ++ ·), sent)

end

variable {answer : String → Reply} {options : ClientOptions}
  {request : Request} {subquery : Subquery} {page : Page}

namespace Subquery

theorem remaining_finished (finished : page.hasNextPage = false)
    (budget : Nat) :
    subquery.remaining answer options request budget page = (.ok [], []) := by
  unfold remaining
  simp [finished]

theorem remaining_exceeded (more : page.hasNextPage = true) :
    subquery.remaining answer options request 0 page =
      (.error (.pageLimitExceeded subquery.id options.maxPages), []) := by
  unfold remaining
  simp [more]

theorem remaining_noCursor (more : page.hasNextPage = true)
    (noCursor : page.endCursor = none) (budget : Nat) :
    subquery.remaining answer options request (budget + 1) page =
      (.error (.invalidResponse
        (.noEndCursor (ResponsePath.ofKeys subquery.path))), []) := by
  unfold remaining
  simp [more, noCursor]

theorem remaining_next {cursor : String} (more : page.hasNextPage = true)
    (hasCursor : page.endCursor = some cursor) (budget : Nat) :
    subquery.remaining answer options request (budget + 1) page =
      match subquery.pageOf options.timeout
          (answer (request.atCursor subquery cursor).body) with
      | .error error => (.error error, [request.atCursor subquery cursor])
      | .ok following =>
          ((subquery.remaining answer options request budget following).1.map
              (following.nodes ++ ·),
            request.atCursor subquery cursor ::
              (subquery.remaining answer options request budget
                following).2) := by
  rw [remaining.eq_def]
  dsimp only
  rw [if_pos more, hasCursor]

variable {first last : Page} {sent : List Request} {received : List Reply}
  {later : List Page} {asked : Option Request} {budget : Nat}

/-- A connection that has read some pages goes on as it does alone. -/
theorem Turns.remaining
    (turns : subquery.Turns (Request.RepliedBy answer) options request first
      sent received later none)
    (ends : (first :: later).getLast? = some last)
    (room : later.length ≤ budget) :
    subquery.remaining answer options request budget first =
      ((subquery.remaining answer options request (budget - later.length)
          last).1.map (later.flatMap (·.nodes) ++ ·),
        sent ++ (subquery.remaining answer options request
          (budget - later.length) last).2) := by
  generalize idle : none = asked at turns
  induction turns generalizing budget with
  | @rest page =>
      obtain rfl : page = last := Option.some.inj ends
      simp only [List.length_nil, Nat.sub_zero, List.flatMap_nil,
        List.nil_append]
      generalize subquery.remaining answer options request budget page = alone
      obtain ⟨outcome, sent⟩ := alone
      cases outcome <;> rfl
  | asked _ _ => cases idle
  | @next _ following _ _ _ _ pages _ more hasCursor replied read _ induction =>
      obtain ⟨budget, rfl⟩ : ∃ less, budget = less + 1 :=
        ⟨budget - 1, by simp only [List.length_cons] at room; omega⟩
      rw [List.getLast?_cons_cons] at ends
      have others := induction ends (Nat.le_of_succ_le_succ room) idle
      rw [replied] at read
      rw [remaining_next more hasCursor, read]
      dsimp only
      rw [others, List.length_cons, Nat.add_sub_add_right]
      cases (subquery.remaining answer options request
          (budget - pages.length) last).1 with
      | error error => simp [Except.map]
      | ok nodes => simp [Except.map]

/-- A connection that fails at a reply fails when it is followed alone. -/
theorem Turns.remaining_failed {own : Request} {error : ExecutionError}
    (turns : subquery.Turns (Request.RepliedBy answer) options request first
      sent received later (some own))
    (failed : subquery.pageOf options.timeout (answer own.body) = .error error)
    (room : later.length < budget) :
    (subquery.remaining answer options request budget first).1 =
      .error error := by
  generalize waiting : some own = asked at turns
  induction turns generalizing budget with
  | rest => cases waiting
  | @asked page cursor more hasCursor =>
      obtain ⟨budget, rfl⟩ : ∃ less, budget = less + 1 :=
        ⟨budget - 1, (Nat.succ_pred_eq_of_pos room).symm⟩
      obtain rfl := Option.some.inj waiting
      rw [remaining_next more hasCursor, failed]
  | next more hasCursor replied read _ induction =>
      obtain ⟨budget, rfl⟩ : ∃ less, budget = less + 1 :=
        ⟨budget - 1, by simp only [List.length_cons] at room; omega⟩
      rw [replied] at read
      rw [remaining_next more hasCursor, read]
      dsimp only
      rw [induction (Nat.lt_of_succ_lt_succ room) waiting]
      rfl

end Subquery

/-! ### One connection -/

namespace Handle.InTurn

variable {handle : Handle} {first : Page} {sent : List Request}
  {received : List Reply} {later : List Page}

theorem later_le
    (inTurn : handle.InTurn (Request.RepliedBy answer) options request first
      sent received later) : later.length ≤ options.maxPages - 1 := by
  have within := inTurn.within
  rw [inTurn.pages] at within
  omega

theorem alone_finished
    (inTurn : handle.InTurn (Request.RepliedBy answer) options request first
      sent received later)
    (idle : handle.asked = none) (finished : handle.page.hasNextPage = false) :
    handle.subquery.alone answer options request first =
      (.ok handle.nodes, sent) := by
  have turns := inTurn.turns
  rw [idle] at turns
  unfold Subquery.alone
  rw [turns.remaining inTurn.page inTurn.later_le,
    Subquery.remaining_finished finished, inTurn.nodes]
  simp [Except.map]

theorem alone_failed {reply : Option Reply} {error : ExecutionError}
    (inTurn : handle.InTurn (Request.RepliedBy answer) options request first
      sent received later)
    (fails :
      handle.Fails (Request.RepliedBy answer) options reply error) :
    (handle.subquery.alone answer options request first).1 = .error error := by
  have turns := inTurn.turns
  have within := inTurn.later_le
  have pages := inTurn.pages
  unfold Subquery.alone
  cases fails with
  | exceeded idle more full =>
      rw [idle] at turns
      have none : options.maxPages - 1 - later.length = 0 := by omega
      rw [turns.remaining inTurn.page within, none,
        Subquery.remaining_exceeded more]
      rfl
  | noCursor idle more below noCursor =>
      rw [idle] at turns
      have room : options.maxPages - 1 - later.length =
          options.maxPages - 1 - later.length - 1 + 1 := by omega
      rw [turns.remaining inTurn.page within, room,
        Subquery.remaining_noCursor more noCursor]
      rfl
  | reply asked replied read =>
      have below := inTurn.allowed (by rw [asked]; rfl)
      rw [pages] at below
      rw [asked] at turns
      rw [replied] at read
      dsimp only
      rw [turns.remaining_failed read (Nat.lt_sub_of_add_lt below)]
      rfl

end Handle.InTurn

/-! ### All connections -/

namespace FollowUps

variable {pending : List (Subquery × Page)} {state : FollowUps}

/-- If every connection is followed to its end, each has sent what it sends
alone, and its nodes are those it has alone. -/
theorem Complete.alone (complete : state.Complete)
    (inTurn :
      state.InTurn (Request.RepliedBy answer) options request pending)
    (distinct : (pending.map (·.1.id)).Nodup) {subquery : Subquery}
    {first : Page} (member : (subquery, first) ∈ pending) :
    ∃ nodes, state.finished.lookup? subquery.id = some nodes ∧
      subquery.alone answer options request first =
        (.ok nodes, state.sentFor subquery.id) := by
  obtain ⟨nodes, found, handle, later, rfl, own, idle, last, rfl⟩ :=
    complete.nodes inTurn distinct member
  exact ⟨handle.nodes, found, own.alone_finished idle last⟩

/-- A failure is the failure of a connection that is followed alone. -/
theorem InTurn.failed_alone
    (inTurn :
      state.InTurn (Request.RepliedBy answer) options request pending)
    {id : SubqueryId} {error : ExecutionError}
    (failed : state.failure = some (id, error)) :
    ∃ subquery first, (subquery, first) ∈ pending ∧
      (subquery.alone answer options request first).1 = .error error := by
  obtain ⟨handle, first, _, _, _, known, _, own, _, fails⟩ :=
    inTurn.failure id error failed
  exact ⟨handle.subquery, first, known, own.alone_failed fails⟩

/-- All complete interleavings send the same requests for each connection, and
end with the same nodes. -/
theorem Complete.agree {first second : FollowUps}
    (distinct : (pending.map (·.1.id)).Nodup)
    (one : (start pending).Reaches (Request.RepliedBy answer) options request
      first)
    (ended : first.Complete)
    (other : (start pending).Reaches (Request.RepliedBy answer) options
      request second)
    (otherEnded : second.Complete) (id : SubqueryId) :
    first.sentFor id = second.sentFor id ∧
      first.finished.lookup? id = second.finished.lookup? id := by
  have inTurn := Reaches.inTurn distinct one
  have otherInTurn := Reaches.inTurn distinct other
  by_cases known : id ∈ pending.map (·.1.id)
  · obtain ⟨⟨subquery, page⟩, member, rfl⟩ := List.mem_map.mp known
    obtain ⟨nodes, found, alone⟩ := ended.alone inTurn distinct member
    obtain ⟨otherNodes, otherFound, otherAlone⟩ :=
      otherEnded.alone otherInTurn distinct member
    rw [alone] at otherAlone
    obtain ⟨sameNodes, sameSent⟩ := Prod.mk.inj otherAlone
    exact ⟨sameSent, by rw [found, otherFound, Except.ok.inj sameNodes]⟩
  · rw [(inTurn.others id known).1, (otherInTurn.others id known).1,
      inTurn.lookup_none known, otherInTurn.lookup_none known]
    exact ⟨rfl, rfl⟩

/-- If a connection fails in one interleaving, none comes to all ends. -/
theorem Complete.not_failed {first second : FollowUps}
    (distinct : (pending.map (·.1.id)).Nodup)
    (one : (start pending).Reaches (Request.RepliedBy answer) options request
      first)
    (ended : first.Complete)
    (other : (start pending).Reaches (Request.RepliedBy answer) options
      request second) :
    second.failure = none := by
  cases failed : second.failure with
  | none => rfl
  | some failure =>
      obtain ⟨id, error⟩ := failure
      obtain ⟨subquery, page, member, alone⟩ :=
        (Reaches.inTurn distinct other).failed_alone failed
      obtain ⟨nodes, _, same⟩ :=
        ended.alone (Reaches.inTurn distinct one) distinct member
      rw [same] at alone
      cases alone

end FollowUps

end GraphPipeline
