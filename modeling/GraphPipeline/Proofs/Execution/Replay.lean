import GraphPipeline.Proofs.Evaluation.LockstepParts
import GraphPipeline.Proofs.Execution.MergedData

/-!
# Replaying with all nodes

A second evaluation that is given the nodes of all pages agrees with an
evaluation of the data in which these nodes are merged, as long as the first
evaluation succeeds, and the first evaluation fails only where that of the
merged data does.  The programs inside of a paginated connection must not follow
pages themselves.
-/

namespace GraphPipeline

namespace Program

mutual

/-- Whether a program follows no pages. -/
def sinkFree : Program → Bool
  | .field _ inner => inner.sinkFree
  | .readScalar _ _ => true
  | .optional inner => inner.sinkFree
  | .mapList _ inner => inner.sinkFree
  | .narrow _ _ inner => inner.sinkFree
  | .buildRecord fields => sinkFreeFields fields
  | .enforceSingle inner => inner.sinkFree
  | .toDictionary entry => entry.sinkFree
  | .keyValue key value => key.sinkFree && value.sinkFree
  | .subquerySink _ _ _ => false
  | .bind _ inner => inner.sinkFree
  | .parameter _ inner => inner.sinkFree

def sinkFreeFields : List (String × Program) → Bool
  | [] => true
  | (_, program) :: fields => program.sinkFree && sinkFreeFields fields

end

mutual

/-- Whether no pages are followed inside of a connection whose pages are
followed. -/
def isFlat : Program → Bool
  | .field _ inner => inner.isFlat
  | .readScalar _ _ => true
  | .optional inner => inner.isFlat
  | .mapList _ inner => inner.isFlat
  | .narrow _ _ inner => inner.isFlat
  | .buildRecord fields => isFlatFields fields
  | .enforceSingle inner => inner.isFlat
  | .toDictionary entry => entry.isFlat
  | .keyValue key value => key.isFlat && value.isFlat
  | .subquerySink _ _ inner => inner.sinkFree
  | .bind _ inner => inner.isFlat
  | .parameter _ inner => inner.isFlat

def isFlatFields : List (String × Program) → Bool
  | [] => true
  | (_, program) :: fields => program.isFlat && isFlatFields fields

end

theorem sinkFree_guarded (type : TypeRef) (inner : Program) :
    (inner.guarded type).sinkFree = inner.sinkFree := by
  unfold guarded
  split <;> rfl

theorem isFlat_guarded (type : TypeRef) (inner : Program) :
    (inner.guarded type).isFlat = inner.isFlat := by
  unfold guarded
  split <;> rfl

theorem sinkFreeFields_iff {fields : List (String × Program)} :
    sinkFreeFields fields = true ↔
      ∀ field ∈ fields, field.2.sinkFree = true := by
  induction fields with
  | nil => simp [sinkFreeFields]
  | cons field fields induction => simp [sinkFreeFields, induction]

theorem isFlatFields_iff {fields : List (String × Program)} :
    isFlatFields fields = true ↔ ∀ field ∈ fields, field.2.isFlat = true := by
  induction fields with
  | nil => simp [isFlatFields]
  | cons field fields induction => simp [isFlatFields, induction]

end Program

/-! ### Recording pages in step -/

namespace Pages

/-- The early and the whole evaluation have recorded pages of the same
connections, and so has the late one, unless it is given nodes. -/
def SameRecorded (given : Option AllNodes) (early late whole : Pages) : Prop :=
  (∀ id, (early.lookup? id).isSome = (whole.lookup? id).isSome) ∧
    (given = none → ∀ id, (late.lookup? id).isSome = (whole.lookup? id).isSome)

theorem isSome_lookup?_append (pages : Pages) (id other : SubqueryId)
    (page : Page) :
    (Pages.lookup? (pages ++ [(id, page)]) other).isSome =
      ((pages.lookup? other).isSome || id == other) := by
  simp only [lookup?, List.find?_append, Option.isSome_map]
  cases found : pages.find? (·.1 == other) with
  | some entry => rfl
  | none => cases same : id == other <;> simp [same]

end Pages

namespace Evaluate

variable {bindings merged : Nat → Option Json} {given : Option AllNodes}

/-- Only an evaluation that is given no nodes records pages. -/
def recordFirst (given : Option AllNodes) (id : SubqueryId) (keys : PageKeys)
    (connection : Json) : Evaluate Unit :=
  if given.isNone then recordPage id keys connection else pure ⟨⟩

theorem result_recordPage_known {id : SubqueryId} {keys : PageKeys}
    {connection : Json} {state : EvaluationState}
    (known : (state.pages.lookup? id).isSome = true) :
    (recordPage id keys connection).result state = (.ok ⟨⟩, state) := by
  obtain ⟨page, found⟩ := Option.isSome_iff_exists.mp known
  simp only [recordPage, result_bind, result_get, found, result_pure]

theorem result_recordPage_new {id : SubqueryId} {keys : PageKeys}
    {connection : Json} {state : EvaluationState}
    (unknown : (state.pages.lookup? id).isSome = false)
    (readable : Page.Readable connection keys) :
    ∃ page, (recordPage id keys connection).result state =
      (.ok ⟨⟩, { state with pages := state.pages ++ [(id, page)] }) := by
  obtain ⟨page, read⟩ := readable.read state.path
  have none : state.pages.lookup? id = none := by simpa using unknown
  refine ⟨page, ?_⟩
  simp only [recordPage, result_bind, result_get, none, result_atPath, read,
    result_modify]

theorem result_recordPage_failed {id : SubqueryId} {keys : PageKeys}
    {connection : Json} {state : EvaluationState}
    (unknown : (state.pages.lookup? id).isSome = false)
    (unreadable : ¬ Page.Readable connection keys) :
    ∃ error,
      (recordPage id keys connection).result state = (.error error, state) := by
  have none : state.pages.lookup? id = none := by simpa using unknown
  cases read : Page.read connection keys state.path with
  | ok page => exact absurd ⟨_, page, read⟩ unreadable
  | error error =>
      refine ⟨error, ?_⟩
      simp only [recordPage, result_bind, result_get, none, result_atPath, read]

/-- Connections are recorded in step if both or none of them can be read. -/
theorem inStep_recordPage {id : SubqueryId} {keys : PageKeys}
    {connection other : Json}
    (readable : Page.Readable connection keys ↔ Page.Readable other keys) :
    InStep bindings merged (Pages.SameRecorded given) (fun _ _ _ => True)
      (recordFirst none id keys connection)
        (recordFirst given id keys connection)
      (recordFirst none id keys other) := by
  intro first second third abreast
  have records : ∀ connection, recordFirst none id keys connection =
      recordPage id keys connection := fun _ => rfl
  rw [records, records]
  obtain ⟨sameWhole, sameLate⟩ := abreast.pages
  cases known : (third.pages.lookup? id).isSome with
  | true =>
      have earlyKnown := (sameWhole id).trans known
      rw [result_recordPage_known earlyKnown, result_recordPage_known known]
      cases given with
      | none =>
          have lateKnown := (sameLate rfl id).trans known
          rw [records, result_recordPage_known lateKnown]
          exact .ok trivial abreast
      | some nodes => exact .ok trivial abreast
  | false =>
      have earlyKnown := (sameWhole id).trans known
      by_cases isReadable : Page.Readable connection keys
      · obtain ⟨page, earlyResult⟩ :=
          result_recordPage_new earlyKnown isReadable
        obtain ⟨otherPage, wholeResult⟩ :=
          result_recordPage_new known (readable.mp isReadable)
        rw [earlyResult, wholeResult]
        cases given with
        | none =>
            have lateKnown := (sameLate rfl id).trans known
            obtain ⟨latePage, lateResult⟩ :=
              result_recordPage_new lateKnown isReadable
            rw [records, lateResult]
            refine .ok trivial
              { abreast with pages := ⟨fun id => ?_, fun _ id => ?_⟩ }
            · simp only [Pages.isSome_lookup?_append, sameWhole]
            · simp only [Pages.isSome_lookup?_append, sameLate rfl]
        | some nodes =>
            refine .ok trivial
              { abreast with pages := ⟨fun id => ?_, fun absurd => ?_⟩ }
            · simp only [Pages.isSome_lookup?_append, sameWhole]
            · cases absurd
      · obtain ⟨error, earlyResult⟩ :=
          result_recordPage_failed earlyKnown isReadable
        have otherUnreadable : ¬ Page.Readable other keys :=
          fun otherReadable => isReadable (readable.mpr otherReadable)
        obtain ⟨otherError, wholeResult⟩ :=
          result_recordPage_failed known otherUnreadable
        rw [earlyResult, wholeResult]
        exact .early

theorem nodesOf_listed {id : SubqueryId} {keys : PageKeys} {connection : Json}
    {items : List Json} (listed : given.bind (·.lookup? id) = some items) :
    nodesOf given id keys connection = pure (.array items) := by
  unfold nodesOf
  rw [listed]

theorem nodesOf_unlisted {id : SubqueryId} {keys : PageKeys}
    {connection member : Json}
    (unlisted : given.bind (·.lookup? id) = none)
    (found : connection.member? keys.nodes = some member) :
    nodesOf given id keys connection = (do
      recordFirst given id keys connection
      pure (if member.isNull then .array [] else member)) := by
  unfold nodesOf recordFirst
  rw [unlisted]
  simp only [memberOf_eq_pure found, pure_bind]
  cases given <;> simp

theorem fails_nodesOf {id : SubqueryId} {keys : PageKeys} {connection : Json}
    (unlisted : given.bind (·.lookup? id) = none)
    (missing : connection.member? keys.nodes = none) :
    Fails (nodesOf given id keys connection) := by
  unfold nodesOf
  rw [unlisted]
  exact (fails_memberOf missing).bind _

/-- The nodes of a page stand in the connection it is read from. -/
theorem nodes_of_page {connection : Json} {keys : PageKeys}
    {path : ResponsePath} {page : Page}
    (read : Page.read connection keys path = .ok page) :
    ∃ member, connection.member? keys.nodes = some member ∧
      (if member.isNull then .array [] else member) = .array page.nodes := by
  obtain ⟨_, _, _, _, list | ⟨null, empty⟩⟩ := Page.read_eq_ok.mp read
  · exact ⟨_, list, rfl⟩
  · refine ⟨_, null, ?_⟩
    rw [empty]
    rfl

/-- How the nodes that a later evaluation is given relate to those in the merged
data. -/
structure Supplies (pages : Pages) (nodes : SubqueryId → List Json)
    (given : Option AllNodes) : Prop where
  listed : ∀ id items, given.bind (·.lookup? id) = some items →
    (pages.lookup? id).isSome = true ∧ items = nodes id
  unlisted : ∀ id page, pages.lookup? id = some page →
    given.bind (·.lookup? id) = none → nodes id = page.nodes
  begins : ∀ id page, pages.lookup? id = some page → page.nodes <+: nodes id

/-- The nodes of a connection: the early evaluation sees those of its first
page. -/
theorem inStep_nodesOf {document : CompileState} {pages : Pages}
    {nodes : SubqueryId → List Json} {data mergedData connection other : Json}
    (merges : Merges document pages nodes data mergedData)
    (supplies : Supplies pages nodes given) {id : SubqueryId}
    {subquery : Subquery}
    (found : document.subqueries[id]? = some subquery)
    (followed : subquery.Followed document)
    (atPath : Run.valueAt? subquery.path data = some connection)
    (atMerged : Run.valueAt? subquery.path mergedData = some other) :
    InStep bindings merged (Pages.SameRecorded given)
      (fun first second third => second = third ∧ (first = second ∨
        ∃ items all,
          first = .array items ∧ second = .array all ∧ items <+: all))
      (nodesOf none id subquery.keys connection)
        (nodesOf given id subquery.keys connection)
      (nodesOf none id subquery.keys other) := by
  have unlistedNone : (none : Option AllNodes).bind (·.lookup? id) = none := rfl
  cases known : pages.lookup? id with
  | none =>
      have same := merges.unpaged id subquery found followed known
      rw [atPath, atMerged] at same
      obtain rfl := Option.some.inj same
      have unlisted : given.bind (·.lookup? id) = none := by
        cases lookup : given.bind (·.lookup? id) with
        | none => rfl
        | some items =>
            have recorded := (supplies.listed id items lookup).1
            rw [known] at recorded
            cases recorded
      cases member : connection.member? subquery.keys.nodes with
      | none =>
          exact inStep_of_early (fails_nodesOf unlistedNone member)
            (fails_nodesOf unlistedNone member)
      | some value =>
          rw [nodesOf_unlisted unlistedNone member,
            nodesOf_unlisted unlisted member]
          exact (inStep_recordPage Iff.rfl).bind fun _ _ _ _ =>
            inStep_pure ⟨rfl, Or.inl rfl⟩
  | some page =>
      obtain ⟨⟨path, read⟩, otherNodes, otherInfo⟩ :=
        merges.paged id subquery page connection other found known atPath
          atMerged
      obtain ⟨info, infoFound, flag, cursor, _⟩ := Page.read_eq_ok.mp read
      have readable : Page.Readable connection subquery.keys :=
        ⟨path, page, read⟩
      have otherReadable : Page.Readable other subquery.keys :=
        ⟨path, { page with nodes := nodes id }, Page.read_eq_ok.mpr
          ⟨info, otherInfo.trans infoFound, flag, cursor, Or.inl otherNodes⟩⟩
      obtain ⟨member, memberFound, memberNodes⟩ := nodes_of_page read
      have recording :
          InStep bindings merged (Pages.SameRecorded given) (fun _ _ _ => True)
            (recordFirst none id subquery.keys connection)
            (recordFirst given id subquery.keys connection)
            (recordFirst none id subquery.keys other) :=
        inStep_recordPage ⟨fun _ => otherReadable, fun _ => readable⟩
      have begins := supplies.begins id page known
      rw [nodesOf_unlisted unlistedNone memberFound,
        nodesOf_unlisted unlistedNone otherNodes]
      cases lookup : given.bind (·.lookup? id) with
      | none =>
          rw [nodesOf_unlisted lookup memberFound, memberNodes]
          refine recording.bind fun _ _ _ _ => inStep_pure ⟨?_, Or.inl rfl⟩
          rw [supplies.unlisted id page known lookup]
          rfl
      | some items =>
          obtain ⟨_, rfl⟩ := supplies.listed id items lookup
          have late : nodesOf given id subquery.keys connection = (do
              recordFirst given id subquery.keys connection
              pure (.array (nodes id))) := by
            rw [nodesOf_listed lookup]
            cases given with
            | none => cases lookup
            | some _ => rfl
          rw [late, memberNodes]
          exact recording.bind fun _ _ _ _ =>
            inStep_pure ⟨rfl, Or.inr ⟨_, _, rfl, rfl, begins⟩⟩

end Evaluate

end GraphPipeline
