import GraphPipeline.Execution.FollowUps
import GraphPipeline.Proofs.Execution.Following

/-!
# Sessions of a run

Every part of a run leads from a session to a later one by sending requests.  A
run that succeeds has followed the connections with more pages to their ends,
each from one of its sessions on.  Nothing is assumed of the transport.
-/

namespace GraphPipeline

variable {σ : Type}

/-- The session after a request is sent. -/
def Session.after (session : Session σ) (transport : Transport σ)
    (request : Request) :
    Session σ :=
  { transport := ((transport request).run session.transport).2
    sent := session.sent ++ [request] }

/-- Requests that are sent one after the other lead from a session to a later
one. -/
inductive Session.Leads (transport : Transport σ) (session : Session σ) :
    Session σ → Prop where
  | refl : Leads transport session session
  | send {last : Session σ} (request : Request) :
      Leads transport session last →
      Leads transport session (last.after transport request)

theorem Session.Leads.trans {transport : Transport σ}
    {first second third : Session σ}
    (early : first.Leads transport second)
    (late : second.Leads transport third) :
    first.Leads transport third := by
  induction late with
  | refl => exact early
  | send request _ induction => exact .send request induction

section

variable (transport : Transport σ) (options : ClientOptions) (request : Request)
  (subquery : Subquery)

/-- From a session on, the pages of a connection are fetched one after the
other, as long as a page says that another one follows. -/
inductive Subquery.Follows :
    Session σ → Page → List Page → Session σ → Prop where
  | last {session : Session σ} {page : Page} :
      page.hasNextPage = false → Follows session page [] session
  | next {session middle later : Session σ} {page following : Page}
      {rest : List Page} {cursor : String} {data : Json} :
      page.hasNextPage = true → page.endCursor = some cursor →
      (Run.fetchData transport options.timeout
          (request.atCursor subquery cursor)).run.run session =
        (.ok data, middle) →
      Run.laterPage subquery data = .ok following →
      Follows middle following rest later →
      Follows session page (following :: rest) later

/-- Between two sessions, all pages of a connection after a first one are
fetched. -/
def Subquery.FollowedBetween (first last : Session σ) (page : Page)
    (later : List Page) :
    Prop :=
  ∃ before after, first.Leads transport before ∧
    subquery.Follows transport options request before page later after ∧
      after.Leads transport last

end

variable {transport : Transport σ} {options : ClientOptions} {request : Request}
  {subquery : Subquery} {page : Page} {later : List Page}

/-- The last page says that no other follows. -/
theorem Subquery.Follows.ends {before after : Session σ}
    (follows :
      subquery.Follows transport options request before page later after) :
    ∃ last,
      (page :: later).getLast? = some last ∧ last.hasNextPage = false := by
  induction follows with
  | last finished => exact ⟨_, rfl, finished⟩
  | next _ _ _ _ _ induction =>
      obtain ⟨last, found, finished⟩ := induction
      exact ⟨last, by rw [List.getLast?_cons_cons]; exact found, finished⟩

theorem Subquery.FollowedBetween.mono {first last earlier final : Session σ}
    (followed :
      subquery.FollowedBetween transport options request first last page later)
    (early : earlier.Leads transport first)
    (late : last.Leads transport final) :
    subquery.FollowedBetween transport options request earlier final page
      later := by
  obtain ⟨before, after, leads, follows, continues⟩ := followed
  exact ⟨before, after, early.trans leads, follows, continues.trans late⟩

/-- A page that no other follows is followed by doing nothing. -/
theorem Subquery.followedBetween_last {first last : Session σ}
    (finished : page.hasNextPage = false) (leads : first.Leads transport last) :
    subquery.FollowedBetween transport options request first last page [] :=
  ⟨first, first, .refl, .last finished, leads⟩

namespace Run

variable {α β : Type}

theorem bind_eq_ok {first : Run σ α} {next : α → Run σ β} {value : β}
    {session later : Session σ}
    (succeeded : (first >>= next).run.run session = (.ok value, later)) :
    ∃ middle between, first.run.run session = (.ok middle, between) ∧
      (next middle).run.run between = (.ok value, later) := by
  rw [run_bind] at succeeded
  cases outcome : first.run.run session with
  | mk result between =>
      rw [outcome] at succeeded
      cases result with
      | error error => cases succeeded
      | ok middle => exact ⟨middle, between, rfl, succeeded⟩

theorem liftM_eq_ok {outcome : Except ExecutionError α} {value : α}
    {session later : Session σ}
    (succeeded :
      (liftM outcome : Run σ α).run.run session = (.ok value, later)) :
    outcome = .ok value ∧ later = session := by
  cases outcome with
  | error error => cases succeeded
  | ok found =>
      cases succeeded
      exact ⟨rfl, rfl⟩

theorem fetchData_leads {timeout : Duration} {data : Json}
    {session later : Session σ}
    (fetched :
      (fetchData transport timeout request).run.run session =
        (.ok data, later)) :
    session.Leads transport later := by
  obtain ⟨response, between, sent, read⟩ := bind_eq_ok fetched
  obtain ⟨_, rfl⟩ := liftM_eq_ok read
  obtain ⟨found, start, gets, sent⟩ := bind_eq_ok sent
  cases gets
  obtain ⟨_, written, sets, answered⟩ := bind_eq_ok sent
  cases sets
  have same : later = session.after transport request := by
    cases outcome : (transport request session.transport).1.within timeout with
    | ok value =>
        rw [outcome] at answered
        cases answered
        rfl
    | error error =>
        rw [outcome] at answered
        cases answered
  rw [same]
  exact .send request .refl

end Run

theorem Subquery.Follows.leads {before after : Session σ}
    (follows :
      subquery.Follows transport options request before page later after) :
    before.Leads transport after := by
  induction follows with
  | last _ => exact .refl
  | next _ _ fetched _ _ induction =>
      exact (Run.fetchData_leads fetched).trans induction

namespace Run

/-- Following the pages of a connection comes to its last one. -/
theorem followPages_follows {budget : Nat} {nodes : List Json}
    {session after : Session σ}
    (succeeded :
      (followPages transport options request subquery budget page).run.run
        session = (.ok nodes, after)) :
    ∃ later,
      subquery.Follows transport options request session page later after ∧
      nodes = (page :: later).flatMap (·.nodes) := by
  induction budget generalizing page nodes session with
  | zero =>
      unfold followPages at succeeded
      cases more : page.hasNextPage with
      | true =>
          rw [more] at succeeded
          cases succeeded
      | false =>
          rw [more] at succeeded
          cases succeeded
          exact ⟨[], .last more, by simp⟩
  | succ budget induction =>
      unfold followPages at succeeded
      cases more : page.hasNextPage with
      | false =>
          rw [more] at succeeded
          cases succeeded
          exact ⟨[], .last more, by simp⟩
      | true =>
          cases hasCursor : page.endCursor with
          | none =>
              rw [more, hasCursor] at succeeded
              cases succeeded
          | some cursor =>
              rw [more, hasCursor] at succeeded
              obtain ⟨data, middle, fetched, afterData⟩ := bind_eq_ok succeeded
              obtain ⟨following, between, reading, afterPage⟩ :=
                bind_eq_ok afterData
              obtain ⟨read, rfl⟩ := liftM_eq_ok reading
              obtain ⟨others, last, followed, ending⟩ := bind_eq_ok afterPage
              cases ending
              obtain ⟨later, follows, rfl⟩ := induction followed
              exact ⟨following :: later,
                .next more hasCursor fetched read follows, by simp⟩

/-- Every connection is followed in its turn. -/
theorem followAll_follows {pending : List (Subquery × Page)} {given : AllNodes}
    {session after : Session σ}
    (succeeded : (followAll transport options request pending).run.run session =
      (.ok given, after)) :
    session.Leads transport after ∧
      (∀ id nodes,
        given.lookup? id = some nodes → ∃ entry ∈ pending, entry.1.id = id ∧
        ∃ later,
          entry.1.FollowedBetween transport options request session after
            entry.2
          later ∧ nodes = (entry.2 :: later).flatMap (·.nodes)) ∧
      ∀ entry ∈ pending, (given.lookup? entry.1.id).isSome = true := by
  induction pending generalizing given session with
  | nil =>
      cases succeeded
      refine ⟨.refl, ?_, ?_⟩
      · intro id nodes listed
        cases listed
      · intro entry member
        cases member
  | cons entry pending induction =>
      obtain ⟨subquery, page⟩ := entry
      unfold followAll at succeeded
      obtain ⟨nodes, middle, followed, rest⟩ := bind_eq_ok succeeded
      obtain ⟨others, last, followedOthers, ending⟩ := bind_eq_ok rest
      cases ending
      obtain ⟨leads, listed, complete⟩ := induction followedOthers
      obtain ⟨later, follows, rfl⟩ := followPages_follows followed
      have leadsFirst := follows.leads
      have lookup : ∀ id, AllNodes.lookup?
          ((subquery.id, (page :: later).flatMap (·.nodes)) :: others) id =
            if subquery.id = id then some ((page :: later).flatMap (·.nodes))
            else others.lookup? id := by
        intro id
        unfold AllNodes.lookup?
        by_cases same : subquery.id = id
        · simp [same]
        · simp [same]
      refine ⟨leadsFirst.trans leads, ?_, ?_⟩
      · intro id nodes known
        rw [lookup] at known
        split at known
        · rename_i same
          cases known
          exact ⟨(subquery, page), List.mem_cons_self, same, later,
            ⟨session, middle, .refl, follows, leads⟩, rfl⟩
        · obtain ⟨entry, member, same, later, between, nodesSame⟩ :=
            listed id nodes known
          exact ⟨entry, List.mem_cons_of_mem _ member, same, later,
            between.mono leadsFirst .refl, nodesSame⟩
      · intro entry member
        rw [lookup]
        split
        · rfl
        · rename_i different
          rcases List.mem_cons.mp member with rfl | others
          · exact absurd rfl different
          · exact complete entry others

end Run

end GraphPipeline
