import GraphPipeline.Execution.FollowUps
import GraphPipeline.Proofs.Evaluation.Pages

/-!
# Replies

A reply either provides data or fails with an error of its own.  The next page
of a connection is the one its connection holds in the data.
-/

namespace GraphPipeline

/-- A reply provides data if it comes in time, with a success status and a body
that has no errors.  The data are not null. -/
def Reply.Provides (timeout : Duration) (reply : Reply) (data : Json) : Prop :=
  ∃ response,
    reply.within timeout = .ok response ∧ response.status.isSuccess = true ∧
    Envelope.ofBytes? response.body = some { data := some data, errors := [] } ∧
      data.isNull = false

/-- The error of a reply that provides no data.  Errors in the body come before
the status and the data, and the status comes before the other faults of the
body. -/
inductive Reply.FailsWith (timeout : Duration) (reply : Reply) :
    ExecutionError → Prop
  | unreachable {error : FetchError}
      (failed : reply.within timeout = .error error) :
      FailsWith timeout reply (.fetch error)
  | errors {response : Response} {envelope : Envelope}
      (arrived : reply.within timeout = .ok response)
      (parsed : Envelope.ofBytes? response.body = some envelope)
      (errors : envelope.errors ≠ []) :
        FailsWith timeout reply (.protocol envelope.errors)
  | refused {response : Response}
      (arrived : reply.within timeout = .ok response)
      (status : response.status.isSuccess = false)
      (clean : ∀ envelope, Envelope.ofBytes? response.body = some envelope →
        envelope.errors = []) :
      FailsWith timeout reply (.fetch (.invalidStatus response.status))
  | malformed {response : Response}
      (arrived : reply.within timeout = .ok response)
      (status : response.status.isSuccess = true)
      (unparsed : Envelope.ofBytes? response.body = none) :
      FailsWith timeout reply (.invalidResponse .malformed)
  | noData {response : Response} (arrived : reply.within timeout = .ok response)
      (status : response.status.isSuccess = true)
      (parsed :
        Envelope.ofBytes? response.body = some { data := none, errors := [] }) :
      FailsWith timeout reply (.invalidResponse .noData)

/-- The data of an envelope are not null. -/
theorem Envelope.isNull_of_ofBytes? {bytes : List UInt8} {envelope : Envelope}
    {data : Json}
    (parsed : ofBytes? bytes = some envelope)
    (found : envelope.data = some data) :
    data.isNull = false := by
  obtain ⟨value, _, shaped⟩ := Option.bind_eq_some_iff.mp parsed
  unfold ofJson? at shaped
  split at shaped
  · obtain ⟨errors, _, rfl⟩ := Option.map_eq_some_iff.mp shaped
    unfold readData at found
    split at found
    · cases found
    · rename_i notNull
      cases data with
      | null => exact absurd found notNull
      | _ => rfl
  · cases shaped

namespace Reply

variable {timeout : Duration} {reply : Reply}

theorem provides_of_data {data : Json}
    (success : reply.data timeout = .ok data) :
    reply.Provides timeout data := by
  unfold Reply.data at success
  cases arrived : reply.within timeout with
  | error error => simp [arrived] at success
  | ok response =>
      simp only [arrived, Run.dataOf] at success
      cases parsed : Envelope.ofBytes? response.body with
      | none =>
          simp only [parsed] at success
          split at success <;> cases success
      | some envelope =>
          obtain ⟨found, errors⟩ := envelope
          simp only [parsed] at success
          split at success
          · cases success
          · rename_i clean
            split at success
            · cases success
            · rename_i status
              obtain rfl : errors = [] := by simpa using clean
              cases found with
              | none => cases success
              | some value =>
                  obtain rfl := Except.ok.inj success
                  exact ⟨response, arrived, by simpa using status, parsed,
                    Envelope.isNull_of_ofBytes? parsed rfl⟩

theorem failsWith_of_data {error : ExecutionError}
    (failure : reply.data timeout = .error error) :
    reply.FailsWith timeout error := by
  unfold Reply.data at failure
  cases arrived : reply.within timeout with
  | error error =>
      simp only [arrived, Except.error.injEq] at failure
      rw [← failure]
      exact .unreachable arrived
  | ok response =>
      simp only [arrived, Run.dataOf] at failure
      cases parsed : Envelope.ofBytes? response.body with
      | none =>
          simp only [parsed] at failure
          split at failure
          · rename_i status
            obtain rfl := Except.error.inj failure
            exact .malformed arrived status parsed
          · rename_i status
            obtain rfl := Except.error.inj failure
            exact .refused arrived (by simpa using status) (by simp [parsed])
      | some envelope =>
          obtain ⟨found, errors⟩ := envelope
          simp only [parsed] at failure
          split at failure
          · rename_i present
            obtain rfl := Except.error.inj failure
            exact .errors arrived parsed (by simpa using present)
          · rename_i clean
            obtain rfl : errors = [] := by simpa using clean
            split at failure
            · rename_i status
              obtain rfl := Except.error.inj failure
              exact .refused arrived (by simpa using status) (by simp [parsed])
            · rename_i status
              cases found with
              | some value => cases failure
              | none =>
                  obtain rfl := Except.error.inj failure
                  exact .noData arrived (by simpa using status) parsed

/-- A client reads the data a reply provides. -/
theorem Provides.data_eq {data : Json}
    (provides : reply.Provides timeout data) :
    reply.data timeout = .ok data := by
  obtain ⟨response, arrived, status, parsed, _⟩ := provides
  simp [Reply.data, Run.dataOf, arrived, status, parsed]

/-- A client fails with the error of a reply. -/
theorem FailsWith.data_eq {error : ExecutionError}
    (fails : reply.FailsWith timeout error) :
    reply.data timeout = .error error := by
  cases fails with
  | unreachable failed => simp [Reply.data, failed]
  | errors arrived parsed errors =>
    simp [Reply.data, Run.dataOf, arrived, parsed, errors]
  | malformed arrived status parsed =>
      simp [Reply.data, Run.dataOf, arrived, status, parsed]
  | noData arrived status parsed =>
    simp [Reply.data, Run.dataOf, arrived, status, parsed]
  | @refused response arrived status clean =>
      cases parsed : Envelope.ofBytes? response.body with
      | none => simp [Reply.data, Run.dataOf, arrived, status, parsed]
      | some envelope =>
          simp [Reply.data, Run.dataOf, arrived, status, parsed,
            clean envelope parsed]

/-- An error in a reply is none of the limit of pages. -/
theorem data_ne_exceeded {error : ExecutionError}
    (failed : reply.data timeout = .error error) (id : SubqueryId)
    (limit : Nat) : error ≠ .pageLimitExceeded id limit := by
  cases failsWith_of_data failed <;> simp

end Reply

/-! ### Pages in replies -/

/-- The data hold a page at the path of a connection. -/
def Subquery.HoldsPage (subquery : Subquery) (data : Json) (page : Page) :
    Prop :=
  ∃ connection path, Run.valueAt? subquery.path data = some connection ∧
    Page.read connection subquery.keys path = .ok page

/-- The data hold at most one page. -/
theorem Subquery.HoldsPage.unique {subquery : Subquery} {data : Json}
    {page other : Page} (holds : subquery.HoldsPage data page)
    (otherHolds : subquery.HoldsPage data other) : page = other := by
  obtain ⟨connection, path, found, read⟩ := holds
  obtain ⟨otherConnection, otherPath, otherFound, otherRead⟩ := otherHolds
  rw [found] at otherFound
  obtain rfl := Option.some.inj otherFound
  rw [Page.read_anywhere otherRead path] at read
  exact (Except.ok.inj read).symm

theorem Run.laterPage_eq_ok {subquery : Subquery} {data : Json} {page : Page} :
    laterPage subquery data = .ok page ↔ subquery.HoldsPage data page := by
  have null : ∀ path,
      Page.read .null subquery.keys path = .error (.unexpectedNull path) :=
    fun _ => rfl
  unfold laterPage Subquery.HoldsPage
  cases valueAt? subquery.path data with
  | none => simp
  | some connection =>
      cases absence : connection.isNull with
      | true =>
          obtain rfl : connection = .null := by
            cases connection <;> first | rfl | cases absence
          simp [Option.filter_some, absence, null]
      | false =>
          simp only [Option.filter_some, absence, Bool.not_false, if_true,
            Option.some.injEq]
          constructor
          · intro success
            cases read : Page.read connection subquery.keys
                (ResponsePath.ofKeys subquery.path) with
            | error error => simp [read] at success
            | ok found =>
                rw [read] at success
                obtain rfl := Except.ok.inj success
                exact ⟨connection, _, rfl, read⟩
          · rintro ⟨_, path, rfl, read⟩
            rw [Page.read_anywhere read]

/-- A client reads the page that the data in a reply hold. -/
theorem Subquery.pageOf_eq_ok {subquery : Subquery} {timeout : Duration}
    {reply : Reply} {page : Page} :
    subquery.pageOf timeout reply = .ok page ↔
      ∃ data, reply.Provides timeout data ∧ subquery.HoldsPage data page := by
  unfold pageOf
  constructor
  · intro read
    cases provided : reply.data timeout with
    | error error =>
        rw [provided] at read
        cases read
    | ok data =>
        rw [provided] at read
        exact ⟨data, Reply.provides_of_data provided,
          Run.laterPage_eq_ok.mp read⟩
  · rintro ⟨data, provides, holds⟩
    rw [provides.data_eq]
    exact Run.laterPage_eq_ok.mpr holds

theorem Subquery.pageOf_ne_exceeded {subquery : Subquery} {timeout : Duration}
    {reply : Reply} {error : ExecutionError}
    (failed : subquery.pageOf timeout reply = .error error) (id : SubqueryId)
    (limit : Nat) : error ≠ .pageLimitExceeded id limit := by
  unfold pageOf at failed
  cases read : reply.data timeout with
  | error error =>
      rw [read] at failed
      cases failed
      exact Reply.data_ne_exceeded read id limit
  | ok data =>
      rw [read] at failed
      rintro rfl
      grind [Run.laterPage]

end GraphPipeline
