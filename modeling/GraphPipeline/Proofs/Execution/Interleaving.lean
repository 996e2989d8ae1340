import Mathlib
import GraphPipeline.Proofs.Execution.Replies

/-!
# Interleavings

Whatever steps the other connections take, a connection is asked for one page
after the other.  What has passed between it and the server is kept in a
relation that its own steps extend and that the steps of the others leave as it
is.  All interleavings end, because the limit of pages bounds their steps.
-/

namespace GraphPipeline

section

variable (replies : Request → Reply → Prop) (options : ClientOptions)
  (request : Request)

/-- What has passed between a connection and the server since its first page:
the requests and replies, the pages read in them, and the request whose reply
is waited for. -/
inductive Subquery.Turns (subquery : Subquery) :
    Page → List Request → List Reply → List Page → Option Request →
      Prop where
  | rest {page : Page} : Turns subquery page [] [] [] none
  | asked {page : Page} {cursor : String} :
      page.hasNextPage = true → page.endCursor = some cursor →
      Turns subquery page [request.atCursor subquery cursor] [] []
        (some (request.atCursor subquery cursor))
  | next {page following : Page} {cursor : String} {reply : Reply}
      {sent : List Request} {received : List Reply} {later : List Page}
      {asked : Option Request} :
      page.hasNextPage = true → page.endCursor = some cursor →
      replies (request.atCursor subquery cursor) reply →
      subquery.pageOf options.timeout reply = .ok following →
      Turns subquery following sent received later asked →
      Turns subquery page (request.atCursor subquery cursor :: sent)
        (reply :: received) (following :: later) asked

/-- A connection that is followed is where its requests and replies have
brought it. -/
structure Handle.InTurn (first : Page) (sent : List Request)
    (received : List Reply) (later : List Page) (handle : Handle) : Prop where
  turns : handle.subquery.Turns replies options request first sent received
    later handle.asked
  page : (first :: later).getLast? = some handle.page
  nodes : handle.nodes = (first :: later).flatMap (·.nodes)
  pages : handle.pages = later.length + 1
  allowed : handle.asked.isSome = true → handle.pages < options.maxPages
  within : handle.pages ≤ max 1 options.maxPages

end

variable {replies : Request → Reply → Prop} {options : ClientOptions}
  {request : Request}

/-! ### One connection -/

namespace Subquery.Turns

variable {subquery : Subquery} {first : Page} {sent : List Request}
  {received : List Reply} {later : List Page} {asked : Option Request}

theorem lengths
    (turns : subquery.Turns replies options request first sent received later
      asked) :
    sent.length = later.length + asked.toList.length ∧
      received.length = later.length := by
  induction turns with
  | rest => exact ⟨rfl, rfl⟩
  | asked _ _ => exact ⟨rfl, rfl⟩
  | next _ _ _ _ _ induction =>
      simp only [List.length_cons]
      omega

/-- Every request asks for the page at the end cursor of the page before. -/
theorem asks
    (turns : subquery.Turns replies options request first sent received later
      asked)
    {number : Nat} {own : Request} (found : sent[number]? = some own) :
    ∃ page cursor, (first :: later)[number]? = some page ∧
      page.hasNextPage = true ∧ page.endCursor = some cursor ∧
        own = request.atCursor subquery cursor := by
  induction turns generalizing number with
  | rest => cases found
  | @asked page cursor more hasCursor =>
      cases number with
      | zero => exact ⟨page, cursor, rfl, more, hasCursor, by simp_all⟩
      | succ number => cases found
  | @next page following cursor _ _ _ _ _ more hasCursor _ _ _ induction =>
      cases number with
      | zero => exact ⟨page, cursor, rfl, more, hasCursor, by simp_all⟩
      | succ number => exact induction found

/-- The pages are those the replies hold. -/
theorem reads
    (turns : subquery.Turns replies options request first sent received later
      asked)
    {number : Nat} {page : Page} :
    later[number]? = some page ↔ ∃ reply, received[number]? = some reply ∧
      subquery.pageOf options.timeout reply = .ok page := by
  induction turns generalizing number with
  | rest => simp
  | asked _ _ => simp
  | next _ _ _ read _ induction =>
      cases number with
      | zero => simp [read]
      | succ number => simpa using induction

/-- The page a request waits for follows the last page there is. -/
theorem waits {own : Request}
    (turns : subquery.Turns replies options request first sent received later
      (some own)) :
    ∃ page, (first :: later).getLast? = some page ∧
      page.hasNextPage = true := by
  generalize waiting : some own = asked at turns
  induction turns with
  | rest => cases waiting
  | @asked page _ more _ => exact ⟨page, rfl, more⟩
  | next _ _ _ _ _ induction =>
      obtain ⟨page, last, more⟩ := induction waiting
      exact ⟨page, by rw [List.getLast?_cons_cons]; exact last, more⟩

theorem send {page : Page} {cursor : String}
    (turns : subquery.Turns replies options request first sent received later
      none)
    (last : (first :: later).getLast? = some page)
    (more : page.hasNextPage = true)
    (hasCursor : page.endCursor = some cursor) :
    subquery.Turns replies options request first
      (sent ++ [request.atCursor subquery cursor]) received later
      (some (request.atCursor subquery cursor)) := by
  generalize idle : none = asked at turns
  induction turns with
  | rest =>
      obtain rfl := Option.some.inj last
      exact .asked more hasCursor
  | asked _ _ => cases idle
  | next moreFirst firstCursor replied read _ induction =>
      rw [List.getLast?_cons_cons] at last
      exact .next moreFirst firstCursor replied read (induction last idle)

theorem receive {own : Request} {reply : Reply} {page : Page}
    (turns : subquery.Turns replies options request first sent received later
      (some own))
    (replied : replies own reply)
    (read : subquery.pageOf options.timeout reply = .ok page) :
    subquery.Turns replies options request first sent (received ++ [reply])
      (later ++ [page]) none := by
  generalize waiting : some own = asked at turns
  induction turns with
  | rest => cases waiting
  | asked more hasCursor =>
      obtain rfl := Option.some.inj waiting
      exact .next more hasCursor replied read .rest
  | next more hasCursor repliedFirst readFirst _ induction =>
      exact .next more hasCursor repliedFirst readFirst (induction waiting)

end Subquery.Turns

namespace Handle

variable {handle next : Handle} {first : Page} {sent : List Request}
  {received : List Reply} {later : List Page}

theorem start_inTurn (subquery : Subquery) (page : Page) :
    (start subquery page).InTurn replies options request page [] [] [] where
  turns := .rest
  page := rfl
  nodes := by simp [Handle.start]
  pages := rfl
  allowed := by simp [Handle.start]
  within := Nat.le_max_left 1 _

theorem Step.inTurn {own : Option Request} {reply : Option Reply}
    (step : handle.Step replies options request next own reply)
    (inTurn : handle.InTurn replies options request first sent received later) :
    next.subquery = handle.subquery ∧ ∃ following,
      next.InTurn replies options request first (sent ++ own.toList)
        (received ++ reply.toList) following := by
  have turns := inTurn.turns
  cases step with
  | send idle more below hasCursor =>
      rw [idle] at turns
      refine ⟨rfl, later, ?_⟩
      simp only [Option.toList_some, Option.toList_none, List.append_nil]
      exact ⟨turns.send inTurn.page more hasCursor, inTurn.page, inTurn.nodes,
        inTurn.pages, fun _ => below, inTurn.within⟩
  | @receive _ _ following waits replied read =>
      rw [waits] at turns
      have below := inTurn.allowed (by rw [waits]; rfl)
      refine ⟨rfl, later ++ [following], ?_⟩
      simp only [Option.toList_some, Option.toList_none, List.append_nil]
      constructor
      case turns => exact turns.receive replied read
      case page => rw [← List.cons_append, List.getLast?_concat]
      case nodes => simp [inTurn.nodes]
      case pages => simp [inTurn.pages]
      case allowed => simp
      case within => exact Nat.le_trans below (Nat.le_max_right 1 _)

/-- Requests are sent for the pages after the first one alone. -/
theorem InTurn.sent_le
    (inTurn : handle.InTurn replies options request first sent received later) :
    sent.length ≤ max 1 options.maxPages - 1 := by
  obtain ⟨sentLength, _⟩ := inTurn.turns.lengths
  have pages := inTurn.pages
  have within := inTurn.within
  have allowed := inTurn.allowed
  cases asked : handle.asked with
  | none =>
      rw [asked, Option.toList_none, List.length_nil] at sentLength
      omega
  | some own =>
      have below := allowed (by rw [asked]; rfl)
      rw [asked, Option.toList_some, List.length_singleton] at sentLength
      omega

/-- The reply a connection fails at holds no page. -/
theorem Fails.reads {reply : Option Reply} {error : ExecutionError}
    (fails : handle.Fails replies options reply error)
    (inTurn : handle.InTurn replies options request first sent received later)
    {number : Nat} {page : Page} :
    later[number]? = some page ↔
      ∃ other, (received ++ reply.toList)[number]? = some other ∧
        handle.subquery.pageOf options.timeout other = .ok page := by
  rw [inTurn.turns.reads]
  cases reply with
  | none => simp
  | some reply =>
      have unread : ∃ error,
          handle.subquery.pageOf options.timeout reply = .error error := by
        cases fails with
        | reply _ _ read => exact ⟨error, read⟩
      obtain ⟨_, unread⟩ := unread
      constructor
      · rintro ⟨other, found, read⟩
        have inside := (List.getElem?_eq_some_iff.mp found).1
        exact ⟨other, (List.getElem?_append_left inside).trans found, read⟩
      · rintro ⟨other, found, read⟩
        by_cases inside : number < received.length
        · rw [List.getElem?_append_left inside] at found
          exact ⟨other, found, read⟩
        · rw [List.getElem?_append_right (Nat.le_of_not_lt inside)] at found
          have member := List.mem_of_getElem? found
          rw [Option.toList_some, List.mem_singleton] at member
          rw [member, unread] at read
          cases read

/-- Before a connection fails, every page it has read says that another one
follows. -/
theorem Fails.more {reply : Option Reply} {error : ExecutionError}
    (fails : handle.Fails replies options reply error)
    (inTurn : handle.InTurn replies options request first sent received later)
    {page : Page} (member : page ∈ first :: later) :
    page.hasNextPage = true := by
  have last : handle.page.hasNextPage = true := by
    cases fails with
    | exceeded _ more _ => exact more
    | noCursor _ more _ _ => exact more
    | reply waits _ _ =>
        have turns := inTurn.turns
        rw [waits] at turns
        obtain ⟨page, found, more⟩ := turns.waits
        rw [inTurn.page] at found
        rwa [← Option.some.inj found] at more
  obtain ⟨number, found⟩ := List.mem_iff_getElem?.mp member
  obtain ⟨sentLength, _⟩ := inTurn.turns.lengths
  by_cases before : number < later.length
  · have asked := List.getElem?_eq_getElem (l := sent) (i := number) (by omega)
    obtain ⟨other, _, same, more, _⟩ := inTurn.turns.asks asked
    rw [found] at same
    rwa [← Option.some.inj same] at more
  · have bound := (List.getElem?_eq_some_iff.mp found).1
    have atEnd : number = (first :: later).length - 1 := by
      simp only [List.length_cons] at bound ⊢
      omega
    rw [atEnd, ← List.getLast?_eq_getElem?, inTurn.page] at found
    rwa [← Option.some.inj found]

theorem Fails.exceeds {reply : Option Reply} {id : SubqueryId} {limit : Nat}
    (fails :
      handle.Fails replies options reply (.pageLimitExceeded id limit)) :
    handle.subquery.id = id ∧ options.maxPages = limit ∧
      handle.page.hasNextPage = true ∧ options.maxPages ≤ handle.pages := by
  cases fails with
  | exceeded _ more full => exact ⟨rfl, rfl, more, full⟩
  | reply _ _ read =>
    exact absurd rfl (Subquery.pageOf_ne_exceeded read id limit)

/-- At the last page within the limit, a connection fails in one way alone. -/
theorem Fails.error_eq {reply : Option Reply} {error : ExecutionError}
    (fails : handle.Fails replies options reply error)
    (inTurn : handle.InTurn replies options request first sent received later)
    (full : options.maxPages ≤ handle.pages) :
    error = .pageLimitExceeded handle.subquery.id options.maxPages := by
  cases fails with
  | exceeded _ _ _ => rfl
  | noCursor _ _ below _ => exact absurd below (Nat.not_lt_of_le full)
  | reply asked _ _ =>
      have below := inTurn.allowed (by rw [asked]; rfl)
      exact absurd below (Nat.not_lt_of_le full)

end Handle

/-! ### All connections -/

namespace FollowUps

/-- All that goes on is about the connections that are followed. -/
structure Concerns (request : Request) (pending : List (Subquery × Page))
    (state : FollowUps) : Prop where
  waiting : ∀ entry ∈ state.waiting, entry ∈ pending
  running : ∀ handle ∈ state.running,
    ∃ first, (handle.subquery, first) ∈ pending
  sent : ∀ entry ∈ state.sent, ∃ subquery first cursor,
    (subquery, first) ∈ pending ∧ subquery.id = entry.1 ∧
      entry.2 = request.atCursor subquery cursor

theorem Step.concerns {pending : List (Subquery × Page)}
    {state next : FollowUps} (step : state.Step replies options request next)
    (concerns : state.Concerns request pending) :
    next.Concerns request pending := by
  obtain ⟨waiting, running, sent⟩ := concerns
  cases step with
  | start noFailure waits room =>
      rw [waits] at waiting
      obtain ⟨first, waiting⟩ := List.forall_mem_cons.mp waiting
      refine ⟨waiting, ?_, sent⟩
      intro handle member
      rcases List.mem_append.mp member with runs | starts
      · exact running handle runs
      · obtain rfl := List.mem_singleton.mp starts
        exact ⟨_, first⟩
  | @act before after handle next own received noFailure among step =>
      rw [among] at running
      obtain ⟨first, known⟩ := running handle (by simp)
      have same : next.subquery = handle.subquery := by cases step <;> rfl
      refine ⟨waiting, ?_, ?_⟩
      · intro other member
        rcases List.mem_append.mp member with inside | inside
        · exact running other (List.mem_append_left _ inside)
        · rcases List.mem_cons.mp inside with rfl | inside
          · exact ⟨first, same ▸ known⟩
          · exact running other
              (List.mem_append_right _ (List.mem_cons_of_mem _ inside))
      · intro entry member
        rcases List.mem_append.mp member with earlier | now
        · exact sent entry earlier
        · cases step with
          | @send cursor _ _ _ _ =>
              obtain rfl := List.mem_singleton.mp now
              exact ⟨handle.subquery, first, cursor, known, rfl, rfl⟩
          | receive _ _ _ => cases now
  | finish noFailure among idle last =>
      rw [among] at running
      refine ⟨waiting, fun other member => running other ?_, sent⟩
      exact (List.sublist_append_right [_] _).append_left _ |>.subset member
  | fail noFailure among fails =>
      refine ⟨waiting, running, fun entry member => sent entry ?_⟩
      simpa [record] using member

/-- Every request is about a connection that is followed. -/
theorem Reaches.concerns {pending : List (Subquery × Page)} {state : FollowUps}
    (reaches : (start pending).Reaches replies options request state) :
    state.Concerns request pending := by
  induction reaches with
  | refl =>
      exact ⟨fun _ member => member, fun _ member => absurd member
        List.not_mem_nil, fun _ member => absurd member List.not_mem_nil⟩
  | tail _ step induction => exact step.concerns induction

/-- The numbers of the connections, wherever they are. -/
def ids (state : FollowUps) : List SubqueryId :=
  state.waiting.map (·.1.id) ++ state.running.map (·.subquery.id) ++
    state.finished.map (·.1)

/-- What holds in every interleaving: each connection is where its own requests
and replies have brought it. -/
structure InTurn (replies : Request → Reply → Prop) (options : ClientOptions)
    (request : Request) (pending : List (Subquery × Page))
    (state : FollowUps) : Prop where
  ids : state.ids.Perm (pending.map (·.1.id))
  waiting : ∀ entry ∈ state.waiting, entry ∈ pending ∧
    state.sentFor entry.1.id = [] ∧ state.receivedFor entry.1.id = []
  running : ∀ handle ∈ state.running,
    (∀ error, state.failure ≠ some (handle.subquery.id, error)) →
      ∃ first later, (handle.subquery, first) ∈ pending ∧
        handle.InTurn replies options request first
          (state.sentFor handle.subquery.id)
          (state.receivedFor handle.subquery.id) later
  finished : ∀ entry ∈ state.finished,
    ∃ (handle : Handle) (first : Page) (later : List Page),
      (handle.subquery, first) ∈ pending ∧ handle.subquery.id = entry.1 ∧
      handle.InTurn replies options request first (state.sentFor entry.1)
        (state.receivedFor entry.1) later ∧
      handle.asked = none ∧ handle.page.hasNextPage = false ∧
        handle.nodes = entry.2
  failure : ∀ id error, state.failure = some (id, error) →
    ∃ (handle : Handle) (first : Page) (later : List Page)
      (received : List Reply) (reply : Option Reply),
      (handle.subquery, first) ∈ pending ∧ handle.subquery.id = id ∧
      handle.InTurn replies options request first (state.sentFor id) received
        later ∧
      state.receivedFor id = received ++ reply.toList ∧
        handle.Fails replies options reply error
  others : ∀ id, id ∉ pending.map (·.1.id) →
    state.sentFor id = [] ∧ state.receivedFor id = []

theorem start_inTurn (pending : List (Subquery × Page)) :
    (start pending).InTurn replies options request pending where
  ids := by simp [FollowUps.ids, start]
  waiting := fun _ member => ⟨member, rfl, rfl⟩
  running := fun _ member => absurd member List.not_mem_nil
  finished := fun _ member => absurd member List.not_mem_nil
  failure := fun _ _ failed => by cases failed
  others := fun _ _ => ⟨rfl, rfl⟩

section record

variable {state : FollowUps} {other id : SubqueryId} {sent : Option Request}
  {received : Option Reply}

theorem sentFor_record_same :
    (state.record id sent received).sentFor id =
      state.sentFor id ++ sent.toList := by
  cases sent <;> simp [sentFor, record]

theorem sentFor_record_other (different : other ≠ id) :
    (state.record other sent received).sentFor id = state.sentFor id := by
  cases sent <;> simp [sentFor, record, different]

theorem sentFor_record_none :
    (state.record other none received).sentFor id = state.sentFor id := by
  simp [sentFor, record]

theorem receivedFor_record_same :
    (state.record id sent received).receivedFor id =
      state.receivedFor id ++ received.toList := by
  cases received <;> simp [receivedFor, record]

theorem receivedFor_record_other (different : other ≠ id) :
    (state.record other sent received).receivedFor id =
      state.receivedFor id := by
  cases received <;> simp [receivedFor, record, different]

end record

variable {pending : List (Subquery × Page)} {state next : FollowUps}

theorem ids_perm {before after : List Handle} {handle : Handle}
    (among : state.running = before ++ handle :: after) :
    state.ids.Perm (handle.subquery.id :: (state.waiting.map (·.1.id) ++
      (before ++ after).map (·.subquery.id) ++
        state.finished.map (·.1))) := by
  rw [List.perm_iff_count]
  intro id
  simp only [ids, among, List.map_append, List.map_cons, List.count_append,
    List.count_cons]
  omega

namespace InTurn

/-- No two connections have the same number. -/
theorem apart (inTurn : state.InTurn replies options request pending)
    (distinct : (pending.map (·.1.id)).Nodup) {before after : List Handle}
    {handle : Handle} (among : state.running = before ++ handle :: after) :
    (∀ entry ∈ state.waiting, handle.subquery.id ≠ entry.1.id) ∧
      (∀ other ∈ before ++ after, handle.subquery.id ≠ other.subquery.id) ∧
        ∀ entry ∈ state.finished, handle.subquery.id ≠ entry.1 := by
  have nodup := (inTurn.ids.symm.trans (ids_perm among)).nodup_iff.mp distinct
  have fresh := (List.nodup_cons.mp nodup).1
  simp only [List.mem_append, not_or] at fresh
  obtain ⟨⟨waiting, running⟩, finished⟩ := fresh
  refine ⟨?_, ?_, ?_⟩
  · intro entry member same
    exact waiting (List.mem_map.mpr ⟨entry, member, same.symm⟩)
  · intro other member same
    exact running (List.mem_map.mpr ⟨other, member, same.symm⟩)
  · intro entry member same
    exact finished (List.mem_map.mpr ⟨entry, member, same.symm⟩)

/-- A connection that runs before any has failed. -/
theorem among (inTurn : state.InTurn replies options request pending)
    (noFailure : state.failure = none) {before after : List Handle}
    {handle : Handle} (among : state.running = before ++ handle :: after) :
    ∃ first later, (handle.subquery, first) ∈ pending ∧
      handle.InTurn replies options request first
        (state.sentFor handle.subquery.id)
        (state.receivedFor handle.subquery.id) later := by
  apply inTurn.running handle
  · rw [among]
    exact List.mem_append_right _ List.mem_cons_self
  · intro error failed
    rw [noFailure] at failed
    cases failed

theorem started (inTurn : state.InTurn replies options request pending)
    (noFailure : state.failure = none) {subquery : Subquery} {page : Page}
    {rest : List (Subquery × Page)}
    (waits : state.waiting = (subquery, page) :: rest) :
    InTurn replies options request pending
      { state with
        waiting := rest
        running := state.running ++ [.start subquery page] } := by
  obtain ⟨known, unsent, unreceived⟩ := inTurn.waiting (subquery, page)
    (by rw [waits]; exact List.mem_cons_self)
  constructor
  case ids =>
    refine List.Perm.trans ?_ inTurn.ids
    rw [List.perm_iff_count]
    intro id
    simp only [FollowUps.ids, waits, Handle.start, List.map_append,
      List.map_cons, List.map_nil, List.count_append, List.count_cons,
      List.count_nil]
    omega
  case waiting =>
    intro entry member
    exact inTurn.waiting entry
      (by rw [waits]; exact List.mem_cons_of_mem _ member)
  case running =>
    intro handle member alive
    rcases List.mem_append.mp member with old | new
    · exact inTurn.running handle old alive
    · obtain rfl := List.mem_singleton.mp new
      refine ⟨page, [], known, ?_⟩
      have none : state.sentFor (Handle.start subquery page).subquery.id = [] :=
        unsent
      have nothing :
          state.receivedFor (Handle.start subquery page).subquery.id = [] :=
        unreceived
      exact none ▸ nothing ▸ Handle.start_inTurn subquery page
  case finished => exact inTurn.finished
  case failure =>
    intro id error failed
    rw [noFailure] at failed
    cases failed
  case others => exact inTurn.others

/-- What one connection sends or reads is nothing to the others. -/
theorem acted (inTurn : state.InTurn replies options request pending)
    (distinct : (pending.map (·.1.id)).Nodup)
    (noFailure : state.failure = none) {before after : List Handle}
    {handle later : Handle} {sent : Option Request} {received : Option Reply}
    (among : state.running = before ++ handle :: after)
    (step : handle.Step replies options request later sent received) :
    InTurn replies options request pending
      { state.record handle.subquery.id sent received with
        running := before ++ later :: after } := by
  obtain ⟨waiting, others, finished⟩ := inTurn.apart distinct among
  obtain ⟨first, _, known, own⟩ := inTurn.among noFailure among
  obtain ⟨same, following, ownNext⟩ := step.inTurn own
  have sentOther : ∀ {id}, handle.subquery.id ≠ id →
      (state.record handle.subquery.id sent received).sentFor id =
        state.sentFor id := sentFor_record_other
  have receivedOther : ∀ {id}, handle.subquery.id ≠ id →
      (state.record handle.subquery.id sent received).receivedFor id =
        state.receivedFor id := receivedFor_record_other
  constructor
  case ids =>
    simpa [FollowUps.ids, FollowUps.record, among, same] using inTurn.ids
  case waiting =>
    intro entry waits
    obtain ⟨inside, unsent, unreceived⟩ := inTurn.waiting entry waits
    have different := waiting entry waits
    exact ⟨inside, (sentOther different).trans unsent,
      (receivedOther different).trans unreceived⟩
  case running =>
    intro other runs _
    have runs : other = later ∨ other ∈ before ++ after := by
      simp only [List.mem_append, List.mem_cons] at runs ⊢
      tauto
    rcases runs with rfl | old
    · refine ⟨first, following, same ▸ known, ?_⟩
      rw [same]
      have ownSent : (state.record handle.subquery.id sent received).sentFor
          handle.subquery.id =
            state.sentFor handle.subquery.id ++ sent.toList :=
        sentFor_record_same
      have ownReceived :
          (state.record handle.subquery.id sent received).receivedFor
            handle.subquery.id =
              state.receivedFor handle.subquery.id ++ received.toList :=
        receivedFor_record_same
      exact ownSent ▸ ownReceived ▸ ownNext
    · have inside : other ∈ state.running := by
        rw [among]
        simp only [List.mem_append, List.mem_cons] at old ⊢
        tauto
      obtain ⟨first, later, known, own⟩ := inTurn.running other inside
        (by simp [noFailure])
      have different := others other old
      refine ⟨first, later, known, ?_⟩
      exact sentOther different ▸ receivedOther different ▸ own
  case finished =>
    intro entry ended
    obtain ⟨other, first, later, inside, number, own, last⟩ :=
      inTurn.finished entry ended
    have different := finished entry ended
    refine ⟨other, first, later, inside, number, ?_, last⟩
    exact sentOther different ▸ receivedOther different ▸ own
  case failure =>
    intro id error failed
    have failed : state.failure = some (id, error) := failed
    rw [noFailure] at failed
    cases failed
  case others =>
    intro id outside
    have different : handle.subquery.id ≠ id := by
      rintro rfl
      exact outside (List.mem_map_of_mem known)
    obtain ⟨unsent, unreceived⟩ := inTurn.others id outside
    exact ⟨(sentOther different).trans unsent,
      (receivedOther different).trans unreceived⟩

theorem ended (inTurn : state.InTurn replies options request pending)
    (noFailure : state.failure = none) {before after : List Handle}
    {handle : Handle} (among : state.running = before ++ handle :: after)
    (idle : handle.asked = none) (last : handle.page.hasNextPage = false) :
    InTurn replies options request pending
      { state with
        running := before ++ after
        finished :=
          state.finished ++ [(handle.subquery.id, handle.nodes)] } := by
  obtain ⟨first, later, known, own⟩ := inTurn.among noFailure among
  constructor
  case ids =>
    refine List.Perm.trans ?_ ((ids_perm among).symm.trans inTurn.ids)
    rw [List.perm_iff_count]
    intro id
    simp only [FollowUps.ids, List.map_append, List.map_cons, List.map_nil,
      List.count_append, List.count_cons, List.count_nil]
    omega
  case waiting => exact inTurn.waiting
  case running =>
    intro other runs
    apply inTurn.running other
    rw [among]
    simp only [List.mem_append, List.mem_cons] at runs ⊢
    tauto
  case finished =>
    intro entry done
    rcases List.mem_append.mp done with old | new
    · exact inTurn.finished entry old
    · obtain rfl := List.mem_singleton.mp new
      exact ⟨handle, first, later, known, rfl, own, idle, last, rfl⟩
  case failure => exact inTurn.failure
  case others => exact inTurn.others

/-- A connection that fails takes the reply it fails at. -/
theorem stopped (inTurn : state.InTurn replies options request pending)
    (distinct : (pending.map (·.1.id)).Nodup)
    (noFailure : state.failure = none) {before after : List Handle}
    {handle : Handle} {received : Option Reply} {error : ExecutionError}
    (among : state.running = before ++ handle :: after)
    (fails : handle.Fails replies options received error) :
    InTurn replies options request pending
      { state.record handle.subquery.id none received with
        failure := some (handle.subquery.id, error) } := by
  obtain ⟨waiting, others, finished⟩ := inTurn.apart distinct among
  obtain ⟨first, later, known, own⟩ := inTurn.among noFailure among
  have sentSame : ∀ id,
      (state.record handle.subquery.id none received).sentFor id =
        state.sentFor id := fun _ => sentFor_record_none
  have receivedOther : ∀ {id}, handle.subquery.id ≠ id →
      (state.record handle.subquery.id none received).receivedFor id =
        state.receivedFor id := receivedFor_record_other
  have receivedSame :
      (state.record handle.subquery.id none received).receivedFor
        handle.subquery.id =
          state.receivedFor handle.subquery.id ++ received.toList :=
    receivedFor_record_same
  constructor
  case ids => exact inTurn.ids
  case waiting =>
    intro entry waits
    obtain ⟨inside, unsent, unreceived⟩ := inTurn.waiting entry waits
    exact ⟨inside, (sentSame _).trans unsent,
      (receivedOther (waiting entry waits)).trans unreceived⟩
  case running =>
    intro other runs alive
    have different : handle.subquery.id ≠ other.subquery.id :=
      fun same => alive error (same ▸ rfl)
    obtain ⟨first, later, known, own⟩ := inTurn.running other runs
      (by simp [noFailure])
    refine ⟨first, later, known, ?_⟩
    exact sentSame _ ▸ receivedOther different ▸ own
  case finished =>
    intro entry done
    obtain ⟨other, first, later, inside, number, own, last⟩ :=
      inTurn.finished entry done
    refine ⟨other, first, later, inside, number, ?_, last⟩
    exact sentSame _ ▸ receivedOther (finished entry done) ▸ own
  case failure =>
    intro id other failed
    obtain ⟨rfl, rfl⟩ := Prod.mk.inj (Option.some.inj failed)
    refine ⟨handle, first, later, state.receivedFor handle.subquery.id,
      received, known, rfl, ?_, receivedSame, fails⟩
    exact sentSame handle.subquery.id ▸ own
  case others =>
    intro id outside
    have different : handle.subquery.id ≠ id := by
      rintro rfl
      exact outside (List.mem_map_of_mem known)
    obtain ⟨unsent, unreceived⟩ := inTurn.others id outside
    exact ⟨(sentSame id).trans unsent,
      (receivedOther different).trans unreceived⟩

end InTurn

theorem Step.inTurn (step : state.Step replies options request next)
    (distinct : (pending.map (·.1.id)).Nodup)
    (inTurn : state.InTurn replies options request pending) :
    next.InTurn replies options request pending := by
  cases step with
  | start noFailure waits room => exact inTurn.started noFailure waits
  | act noFailure among step =>
      exact inTurn.acted distinct noFailure among step
  | finish noFailure among idle last =>
      exact inTurn.ended noFailure among idle last
  | fail noFailure among fails =>
      exact inTurn.stopped distinct noFailure among fails

/-- In every interleaving, each connection is where its own requests and
replies have brought it. -/
theorem Reaches.inTurn (distinct : (pending.map (·.1.id)).Nodup)
    (reaches : (start pending).Reaches replies options request state) :
    state.InTurn replies options request pending := by
  induction reaches with
  | refl => exact start_inTurn pending
  | tail _ step induction => exact step.inTurn distinct induction

/-- If every connection is followed to its end, its nodes are those of the
pages read. -/
theorem Complete.nodes (complete : state.Complete)
    (inTurn : state.InTurn replies options request pending)
    (distinct : (pending.map (·.1.id)).Nodup) {subquery : Subquery}
    {first : Page} (member : (subquery, first) ∈ pending) :
    ∃ nodes, state.finished.lookup? subquery.id = some nodes ∧
      ∃ (handle : Handle) (later : List Page), handle.subquery = subquery ∧
        handle.InTurn replies options request first
          (state.sentFor subquery.id) (state.receivedFor subquery.id) later ∧
        handle.asked = none ∧ handle.page.hasNextPage = false ∧
          handle.nodes = nodes := by
  have listed : subquery.id ∈ state.finished.map (·.1) := by
    have all := inTurn.ids
    simp only [ids, complete.waiting, complete.running, List.map_nil,
      List.nil_append] at all
    exact all.mem_iff.mpr (List.mem_map_of_mem member)
  obtain ⟨entry, inside, same⟩ := List.mem_map.mp listed
  have found : (state.finished.find? (·.1 == subquery.id)).isSome = true := by
    rw [List.find?_isSome]
    exact ⟨entry, inside, by simpa using same⟩
  obtain ⟨⟨id, nodes⟩, found⟩ := Option.isSome_iff_exists.mp found
  obtain rfl : id = subquery.id := by simpa using List.find?_some found
  obtain ⟨handle, otherFirst, later, known, sameId, own, idle, last, same⟩ :=
    inTurn.finished _ (List.mem_of_find?_eq_some found)
  have sameEntry := List.inj_on_of_nodup_map distinct known member sameId
  obtain ⟨sameSubquery, rfl⟩ := Prod.mk.inj sameEntry
  exact ⟨nodes, by rw [AllNodes.lookup?, found]; rfl, handle, later,
    sameSubquery, own, idle, last, same⟩

/-- Only the connections that are followed have nodes. -/
theorem InTurn.lookup_none
    (inTurn : state.InTurn replies options request pending) {id : SubqueryId}
    (outside : id ∉ pending.map (·.1.id)) :
    state.finished.lookup? id = none := by
  rw [AllNodes.lookup?, Option.map_eq_none_iff, List.find?_eq_none]
  intro entry member same
  obtain ⟨handle, first, _, inside, number, _⟩ := inTurn.finished entry member
  apply outside
  rw [← eq_of_beq same, ← number]
  exact List.mem_map_of_mem inside

/-- Wherever a connection is, it is where its requests and replies have brought
it, but for a reply that holds no page. -/
theorem InTurn.handle (inTurn : state.InTurn replies options request pending)
    (distinct : (pending.map (·.1.id)).Nodup) {subquery : Subquery}
    {first : Page} (member : (subquery, first) ∈ pending) :
    ∃ (handle : Handle) (later : List Page) (received : List Reply),
      handle.subquery = subquery ∧
      handle.InTurn replies options request first (state.sentFor subquery.id)
        received later ∧
      (∀ (number : Nat) (page : Page), later[number]? = some page ↔
        ∃ reply, (state.receivedFor subquery.id)[number]? = some reply ∧
          subquery.pageOf options.timeout reply = .ok page) ∧
      ∀ error, state.failure = some (subquery.id, error) →
        ∃ reply, handle.Fails replies options reply error := by
  have unique : ∀ {other otherFirst}, (other, otherFirst) ∈ pending →
      other.id = subquery.id → other = subquery ∧ otherFirst = first :=
    fun inside same =>
      Prod.mk.inj (List.inj_on_of_nodup_map distinct inside member same)
  by_cases failed : ∃ error, state.failure = some (subquery.id, error)
  · obtain ⟨error, failed⟩ := failed
    obtain ⟨handle, _, later, received, reply, known, same, own, taken,
      fails⟩ := inTurn.failure _ _ failed
    obtain ⟨rfl, rfl⟩ := unique known same
    refine ⟨handle, later, received, rfl, own, ?_, ?_⟩
    · intro number page
      rw [taken]
      exact fails.reads own
    · intro other otherFailed
      rw [failed] at otherFailed
      obtain ⟨_, rfl⟩ := Prod.mk.inj (Option.some.inj otherFailed)
      exact ⟨reply, fails⟩
  · have alive : ∀ error, state.failure ≠ some (subquery.id, error) :=
      fun error same => failed ⟨error, same⟩
    have listed : subquery.id ∈ state.ids :=
      inTurn.ids.mem_iff.mpr (List.mem_map_of_mem member)
    suffices own : ∃ (handle : Handle) (later : List Page),
        handle.subquery = subquery ∧
        handle.InTurn replies options request first
          (state.sentFor subquery.id) (state.receivedFor subquery.id) later by
      obtain ⟨handle, later, rfl, own⟩ := own
      exact ⟨handle, later, _, rfl, own, fun _ _ => own.turns.reads,
        fun error same => absurd same (alive error)⟩
    simp only [FollowUps.ids, List.mem_append] at listed
    rcases listed with (waits | runs) | finished
    · obtain ⟨⟨other, page⟩, inside, same⟩ := List.mem_map.mp waits
      obtain ⟨known, unsent, unreceived⟩ := inTurn.waiting _ inside
      obtain ⟨rfl, rfl⟩ := unique known same
      refine ⟨Handle.start other page, [], rfl, ?_⟩
      rw [unsent, unreceived]
      exact Handle.start_inTurn other page
    · obtain ⟨handle, inside, same⟩ := List.mem_map.mp runs
      obtain ⟨_, later, known, own⟩ := inTurn.running handle inside
        (same ▸ alive)
      obtain ⟨rfl, rfl⟩ := unique known same
      exact ⟨handle, later, rfl, own⟩
    · obtain ⟨entry, inside, same⟩ := List.mem_map.mp finished
      obtain ⟨handle, _, later, known, number, own, _⟩ :=
        inTurn.finished entry inside
      obtain ⟨rfl, rfl⟩ := unique known (number.trans same)
      exact ⟨handle, later, rfl, same ▸ own⟩

/-! ### Interleavings end -/

/-- Unless nothing is going on any more, some connection takes a step, if every
request gets a reply. -/
theorem exists_step (replied : ∀ own, ∃ reply, replies own reply)
    (going : ¬ state.Ended) :
    ∃ next, state.Step replies options request next := by
  have noFailure : state.failure = none := by
    by_contra failed
    exact going (Or.inr failed)
  cases running : state.running with
  | nil =>
      cases waiting : state.waiting with
      | nil => exact absurd (Or.inl ⟨waiting, running, noFailure⟩) going
      | cons entry rest =>
          obtain ⟨subquery, page⟩ := entry
          have room :
              state.running.length < max 1 options.concurrentHandles := by
            rw [running, List.length_nil]
            omega
          exact ⟨_, .start noFailure waiting room⟩
  | cons handle after =>
      have among : state.running = [] ++ handle :: after := running
      cases asked : handle.asked with
      | some sent =>
          obtain ⟨reply, comes⟩ := replied sent
          cases read : handle.subquery.pageOf options.timeout reply with
          | ok page =>
              exact ⟨_, .act noFailure among (.receive asked comes read)⟩
          | error error =>
              exact ⟨_, .fail noFailure among (.reply asked comes read)⟩
      | none =>
          cases more : handle.page.hasNextPage with
          | false => exact ⟨_, .finish noFailure among asked more⟩
          | true =>
              by_cases below : handle.pages < options.maxPages
              · cases hasCursor : handle.page.endCursor with
                | none =>
                    exact ⟨_, .fail noFailure among
                      (.noCursor asked more below hasCursor)⟩
                | some cursor =>
                    exact ⟨_, .act noFailure among
                      (.send asked more below hasCursor)⟩
              · exact ⟨_, .fail noFailure among
                  (.exceeded asked more (Nat.le_of_not_lt below))⟩

/-- A bound on the steps that are still taken. -/
def weight (options : ClientOptions) (state : FollowUps) : Nat :=
  state.waiting.length * (2 * options.maxPages + 3) +
    (state.running.map fun handle => 2 * (options.maxPages - handle.pages) +
      if handle.asked.isSome then 1 else 2).sum +
    if state.failure.isNone then 1 else 0

theorem Step.weight_lt (step : state.Step replies options request next)
    (inTurn : state.InTurn replies options request pending) :
    next.weight options < state.weight options := by
  cases step with
  | @start subquery page rest noFailure waits room =>
      simp only [weight, waits, Handle.start, List.length_cons,
        List.map_append, List.map_cons, List.map_nil, List.sum_append,
        List.sum_cons, List.sum_nil, Option.isSome_none, Nat.succ_mul]
      simp
      omega
  | @act before after handle next sent received noFailure among step =>
      obtain ⟨first, later, _, own⟩ := inTurn.among noFailure among
      simp only [weight, record, among, List.map_append, List.map_cons,
        List.sum_append, List.sum_cons]
      cases step with
      | send idle more below hasCursor => simp [idle]
      | receive asked replied read =>
          have below := own.allowed (by rw [asked]; rfl)
          simp [asked]
          omega
  | @finish before after handle noFailure among idle ended =>
      simp only [weight, among, List.map_append, List.map_cons,
        List.sum_append, List.sum_cons]
      simp [idle]
  | @fail before after handle received error noFailure among fails =>
      simp [weight, record, noFailure]

/-- Every interleaving comes to an end. -/
theorem Reaches.ends (replied : ∀ own, ∃ reply, replies own reply)
    (distinct : (pending.map (·.1.id)).Nodup)
    (reaches : (start pending).Reaches replies options request state) :
    ∃ final, state.Reaches replies options request final ∧ final.Ended := by
  induction bound : state.weight options using Nat.strongRecOn
    generalizing state with
  | ind weight induction =>
      by_cases ended : state.Ended
      · exact ⟨state, .refl, ended⟩
      · obtain ⟨next, step⟩ := exists_step replied ended
        have less := step.weight_lt (Reaches.inTurn distinct reaches)
        obtain ⟨final, later, ended⟩ :=
          induction _ (bound ▸ less) (reaches.tail step) rfl
        exact ⟨final, later.head step, ended⟩

/-- No interleaving goes on for ever. -/
theorem Reaches.not_endless (distinct : (pending.map (·.1.id)).Nodup)
    {chain : Nat → FollowUps}
    (reaches : (start pending).Reaches replies options request (chain 0)) :
    ¬ ∀ number,
      (chain number).Step replies options request (chain (number + 1)) := by
  intro steps
  have inTurn : ∀ number,
      (chain number).InTurn replies options request pending := by
    intro number
    induction number with
    | zero => exact reaches.inTurn distinct
    | succ number induction => exact (steps number).inTurn distinct induction
  have light : ∀ number, (chain number).weight options + number ≤
      (chain 0).weight options := by
    intro number
    induction number with
    | zero => exact Nat.le_refl _
    | succ number induction =>
        have less := (steps number).weight_lt (inTurn number)
        omega
  have beyond := light ((chain 0).weight options + 1)
  omega

/-- No more connections are followed at once than allowed. -/
theorem Reaches.running_le
    (reaches : (start pending).Reaches replies options request state) :
    state.running.length ≤ max 1 options.concurrentHandles := by
  induction reaches with
  | refl => exact Nat.zero_le _
  | tail _ step induction =>
      cases step with
      | start noFailure waits room => simpa using room
      | act noFailure among step => simpa [among] using induction
      | finish noFailure among idle ended =>
          simp only [among, List.length_append, List.length_cons] at induction ⊢
          omega
      | fail noFailure among fails => exact induction

end FollowUps

end GraphPipeline
