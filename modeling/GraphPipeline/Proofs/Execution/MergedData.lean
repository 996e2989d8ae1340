import GraphPipeline.Proofs.Evaluation.Pages
import GraphPipeline.Proofs.Execution.LocatedPages

/-!
# Data with merged pages

How the data of a response and the data with the nodes of all pages relate at
the places of a document.  Paginated connections do not lie inside of each
other, so each is changed by its own nodes alone.  What a program reads
otherwise does not change.
-/

namespace GraphPipeline

/-- The data and the merged data, place by place. -/
structure Merges (document : CompileState) (pages : Pages)
    (nodes : SubqueryId → List Json) (data merged : Json) : Prop where
  similar : ∀ path, document.IsExposed path →
    Option.Rel Json.Similar (Run.valueAt? path data) (Run.valueAt? path merged)
  leaf : ∀ path key, document.IsOpen path →
    (∀ deeper set, document.selections.ReachesSet deeper set →
      ¬ path ++ [key] <+: deeper) →
        Run.valueAt? (path ++ [key]) data = Run.valueAt? (path ++ [key]) merged
  unpaged : ∀ id subquery, document.subqueries[id]? = some subquery →
    subquery.Followed document → pages.lookup? id = none →
      Run.valueAt? subquery.path data = Run.valueAt? subquery.path merged
  paged :
    ∀ id subquery page connection other,
      document.subqueries[id]? = some subquery →
      pages.lookup? id = some page →
        Run.valueAt? subquery.path data = some connection →
        Run.valueAt? subquery.path merged = some other →
          (∃ path, Page.read connection subquery.keys path = .ok page) ∧
            other.member? subquery.keys.nodes = some (.array (nodes id)) ∧
              other.member? subquery.keys.pageInfo =
                connection.member? subquery.keys.pageInfo

section

variable {named : String → Prop} {document : CompileState} {pages : Pages}
  {nodes : SubqueryId → List Json} {data : Json}

theorem apart_of_exposed {first second : List String}
    (firstExposed : document.IsExposed first)
    (secondExposed : document.IsExposed second)
    (firstCursor : document.IsCursorPath first)
    (secondCursor : document.IsCursorPath second) (different : first ≠ second) :
    ∀ key other, Run.Apart (first ++ [key]) (second ++ [other]) := by
  have between : ∀ {left right : List String} {key other : String},
      left ++ [key] <+: right ++ [other] → left <+: right := by
    intro left right key other before
    have longer := before.length_le
    simp only [List.length_append, List.length_cons, List.length_nil] at longer
    exact List.prefix_of_prefix_length_le
      ((List.prefix_append left [key]).trans before)
      (List.prefix_append right [other]) (by omega)
  intro key other
  constructor
  · intro before
    exact different (secondExposed first firstCursor (between before))
  · intro before
    exact different (firstExposed second secondCursor (between before)).symm

/-- The connection of a target, with what is known about it. -/
theorem Pages.Located.target (formed : document.WellFormed named)
    (located : pages.Located document data) {subquery : Subquery}
    (member : subquery ∈ document.subqueries)
    (recorded : (pages.lookup? subquery.id).isSome = true) :
    document.subqueries[subquery.id]? = some subquery ∧
      subquery.Followed document ∧
      document.IsCursorPath subquery.path := by
  obtain ⟨id, found⟩ := List.mem_iff_getElem?.mp member
  have sameId := (formed.numbered found).1
  obtain ⟨page, known⟩ := Option.isSome_iff_exists.mp recorded
  obtain ⟨other, _, _, otherFound, followed, _, _⟩ := located _ page known
  rw [sameId] at otherFound ⊢
  rw [found] at otherFound
  obtain rfl := Option.some.inj otherFound
  exact ⟨found, followed, subquery, member, followed.cursor⟩

/-- Different connections lie at different paths. -/
theorem Subquery.Followed.path_injective (formed : document.WellFormed named)
    {first second : Subquery} {id other : SubqueryId}
    (found : document.subqueries[id]? = some first)
    (otherFound : document.subqueries[other]? = some second)
    (followed : first.Followed document)
    (otherFollowed : second.Followed document)
    (same : first.path = second.path) : id = other := by
  have cursor := followed.cursor
  have otherCursor := otherFollowed.cursor
  rw [(formed.numbered found).2, same] at cursor
  rw [(formed.numbered otherFound).2] at otherCursor
  exact cursor.unique formed.selections otherCursor

/-- No connection whose pages are merged lies at an exposed path or above it. -/
theorem Pages.Located.outside (formed : document.WellFormed named)
    (located : pages.Located document data) {path : List String}
    (exposed : document.IsExposed path) :
    ∀ target,
      pages.IsTarget document.subqueries target → ¬ target <+: path := by
  rintro target ⟨subquery, member, recorded, rfl⟩ before
  obtain ⟨_, _, cursor⟩ := located.target formed member recorded
  have same := exposed _ cursor ((List.prefix_append _ _).trans before)
  have longer := before.length_le
  rw [← same] at longer
  simp at longer

/-- The members of a connection are apart from the nodes of every other
connection whose pages are merged. -/
theorem Pages.Located.others_apart (formed : document.WellFormed named)
    (located : pages.Located document data) {subquery : Subquery}
    {id : SubqueryId}
    (found : document.subqueries[id]? = some subquery)
    (followed : subquery.Followed document)
    (cursor : document.IsCursorPath subquery.path) {other : Subquery}
    (member : other ∈ document.subqueries)
    (recorded : (pages.lookup? other.id).isSome = true) :
    other = subquery ∨
      ∀ key nodes,
        Run.Apart (subquery.path ++ [key]) (other.path ++ [nodes]) := by
  obtain ⟨otherFound, otherFollowed, otherCursor⟩ :=
    located.target formed member recorded
  by_cases same : subquery.path = other.path
  · have equal :=
      followed.path_injective formed found otherFound otherFollowed same
    rw [← equal, found] at otherFound
    exact Or.inl (Option.some.inj otherFound).symm
  · exact Or.inr (apart_of_exposed followed.exposed otherFollowed.exposed cursor
      otherCursor same)

theorem merge_leaf (formed : document.WellFormed named)
    (located : pages.Located document data) {path : List String} {key : String}
    (isOpen : document.IsOpen path)
    (leaf : ∀ deeper set, document.selections.ReachesSet deeper set →
      ¬ path ++ [key] <+: deeper) :
    Run.valueAt? (path ++ [key]) data =
      Run.valueAt? (path ++ [key])
        (pages.merge nodes document.subqueries data) := by
  refine (Pages.valueAt?_merge_apart ?_ data).symm
  intro target isTarget
  refine ⟨?_, located.outside formed (isOpen.below key) target isTarget⟩
  obtain ⟨subquery, member, recorded, rfl⟩ := isTarget
  obtain ⟨_, followed, cursor⟩ := located.target formed member recorded
  obtain ⟨set, reached⟩ := followed.reached
  intro before
  rcases List.prefix_concat_iff.mp before with same | shorter
  · obtain ⟨rfl, _⟩ := List.append_inj' same rfl
    exact isOpen _ cursor List.prefix_rfl
  · exact leaf _ set reached shorter

theorem merge_unpaged (formed : document.WellFormed named)
    (located : pages.Located document data) {id : SubqueryId}
    {subquery : Subquery}
    (found : document.subqueries[id]? = some subquery)
    (followed : subquery.Followed document)
    (unknown : pages.lookup? id = none) :
    Run.valueAt? subquery.path data =
      Run.valueAt? subquery.path
        (pages.merge nodes document.subqueries data) := by
  refine (Pages.valueAt?_merge_apart ?_ data).symm
  rintro target ⟨other, member, recorded, rfl⟩
  obtain ⟨otherFound, otherFollowed, otherCursor⟩ :=
    located.target formed member recorded
  have cursor : document.IsCursorPath subquery.path :=
    ⟨subquery, List.mem_of_getElem? found, followed.cursor⟩
  have different : subquery.path ≠ other.path := by
    intro same
    have sameId :=
      followed.path_injective formed found otherFound otherFollowed same
    rw [← sameId, unknown] at recorded
    cases recorded
  constructor
  · intro before
    rcases List.prefix_concat_iff.mp before with same | shorter
    · have above : other.path <+: subquery.path := by
        rw [same]
        exact List.prefix_append _ _
      exact different (followed.exposed _ otherCursor above).symm
    · exact different (otherFollowed.exposed _ cursor shorter)
  · intro before
    exact different
      (followed.exposed _ otherCursor
        ((List.prefix_append _ _).trans before)).symm

/-- The nodes of all pages stand in the place of the nodes of the first page. -/
theorem merge_nodes (formed : document.WellFormed named)
    (located : pages.Located document data) {id : SubqueryId}
    {subquery : Subquery} {connection other : Json}
    (found : document.subqueries[id]? = some subquery)
    (recorded : (pages.lookup? subquery.id).isSome = true)
    (listed : (connection.member? subquery.keys.nodes).isSome = true)
    (atPath : Run.valueAt? subquery.path data = some connection)
    (atMerged :
      Run.valueAt? subquery.path (pages.merge nodes document.subqueries data) =
        some other) :
    other.member? subquery.keys.nodes = some (.array (nodes id)) := by
  have member := List.mem_of_getElem? found
  obtain ⟨_, followed, cursor⟩ := located.target formed member recorded
  have replaced : Run.valueAt? (subquery.path ++ [subquery.keys.nodes])
      (pages.merge nodes document.subqueries data) =
        (Run.valueAt? (subquery.path ++ [subquery.keys.nodes])
          data).map fun _ =>
          .array (nodes subquery.id) :=
    Pages.valueAt?_merge_target member recorded
      (fun _ otherMember otherRecorded =>
      (located.others_apart formed found followed cursor otherMember
        otherRecorded).imp_right fun apart => apart _ _) data
  obtain ⟨items, atNodes⟩ := Option.isSome_iff_exists.mp listed
  rw [Run.valueAt?_concat, Run.valueAt?_concat, atPath, atMerged,
    (formed.numbered found).1] at replaced
  simpa [atNodes] using replaced

/-- The information on the page stays that of the first page. -/
theorem merge_pageInfo (formed : document.WellFormed named)
    (located : pages.Located document data) {id : SubqueryId}
    {subquery : Subquery} {connection other : Json}
    (found : document.subqueries[id]? = some subquery)
    (recorded : (pages.lookup? subquery.id).isSome = true)
    (atPath : Run.valueAt? subquery.path data = some connection)
    (atMerged :
      Run.valueAt? subquery.path (pages.merge nodes document.subqueries data) =
        some other) :
    other.member? subquery.keys.pageInfo =
      connection.member? subquery.keys.pageInfo := by
  obtain ⟨_, followed, cursor⟩ :=
    located.target formed (List.mem_of_getElem? found) recorded
  have kept : Run.valueAt? (subquery.path ++ [subquery.keys.pageInfo])
      (pages.merge nodes document.subqueries data) =
        Run.valueAt? (subquery.path ++ [subquery.keys.pageInfo]) data := by
    apply Pages.valueAt?_merge_apart
    rintro target ⟨other, otherMember, otherRecorded, rfl⟩
    rcases located.others_apart formed found followed cursor otherMember
      otherRecorded with rfl | apart
    · have differ := followed.keys
      constructor
      · intro before
        have same := before.eq_of_length (by simp)
        exact differ (by simpa using same)
      · intro before
        have same := before.eq_of_length (by simp)
        exact differ (by simpa using same.symm)
    · exact apart _ _
  rw [Run.valueAt?_concat, Run.valueAt?_concat, atPath, atMerged] at kept
  exact kept

theorem merge_merges (formed : document.WellFormed named)
    (located : pages.Located document data) :
    Merges document pages nodes data
      (pages.merge nodes document.subqueries data) where
  similar :=
    fun _ exposed => Pages.similar_merge (located.outside formed exposed) data
  leaf := fun _ _ isOpen leaf => merge_leaf formed located isOpen leaf
  unpaged := fun _ _ found followed unknown =>
    merge_unpaged formed located found followed unknown
  paged := by
    intro id subquery page connection other found known atPath atMerged
    have recorded : (pages.lookup? subquery.id).isSome = true := by
      rw [(formed.numbered found).1, known]
      rfl
    obtain ⟨_, _, path, otherFound, _, sameAt, read⟩ := located id page known
    rw [found] at otherFound
    obtain rfl := Option.some.inj otherFound
    rw [atPath] at sameAt
    obtain rfl := Option.some.inj sameAt
    obtain ⟨_, _, _, _, nodesFound⟩ := Page.read_eq_ok.mp read
    have listed : (connection.member? subquery.keys.nodes).isSome = true := by
      rcases nodesFound with list | ⟨null, _⟩
      · rw [list]
        rfl
      · rw [null]
        rfl
    exact ⟨⟨path, read⟩,
      merge_nodes formed located found recorded listed atPath atMerged,
      merge_pageInfo formed located found recorded atPath atMerged⟩

end

end GraphPipeline
