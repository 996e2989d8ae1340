import GraphPipeline.Proofs.Compile.Fitting
import GraphPipeline.Proofs.CursorSignatures

/-!
# Paths to paginated connections

A connection whose pages are followed is selected with a cursor of its own, so
nothing else is answered under its response key.  Paths that do not pass through
such a connection are open: fields without a cursor lead from open paths to open
paths.
-/

namespace GraphPipeline

namespace Selections

variable {named : String → Prop} {selections : Selections}

theorem spaceAt?_append (space : KeySpaceId) (path more : List String) :
    selections.spaceAt? space (path ++ more) =
      (selections.spaceAt? space path).bind (selections.spaceAt? · more) := by
  induction path generalizing space with
  | nil => rfl
  | cons key path induction =>
      simp only [List.cons_append, spaceAt?]
      cases (Entries.lookup? (selections.keys space) key).bind
        KeyEntry.child with
      | none => rfl
      | some child => exact induction child

/-- A response path determines the key space of the sets it reaches. -/
theorem ReachesSet.space (formed : WellFormed named selections)
    {path : List String} {id : SetId}
    (reached : selections.ReachesSet path id) :
    selections.spaceAt? (selections.set rootId).keySpace path =
      some (selections.set id).keySpace := by
  induction reached with
  | root => rfl
  | fragment _ found induction =>
      rw [induction, formed.fragmentSpace (Entries.mem_of_lookup? found)]
  | field _ member child induction =>
      obtain ⟨entry, known, matching⟩ := formed.recorded member
      have entryChild := matching.child
      rw [child] at entryChild
      simp [spaceAt?_append, induction, spaceAt?, known, entryChild]

theorem ReachesSet.sameSpace (formed : WellFormed named selections)
    {path : List String} {first second : SetId}
    (reached : selections.ReachesSet path first)
    (other : selections.ReachesSet path second) :
    (selections.set first).keySpace = (selections.set second).keySpace :=
  Option.some.inj ((reached.space formed).symm.trans (other.space formed))

/-- No selections lie below the key of a leaf. -/
theorem ReachesSet.not_below_leaf (formed : WellFormed named selections)
    {path deeper : List String} {id other : SetId} {record : FieldRecord}
    (reached : selections.ReachesSet path id)
    (member : record ∈ (selections.set id).fields) (leaf : record.child = none)
    (below : selections.ReachesSet deeper other) :
    ¬ path ++ [record.key] <+: deeper := by
  rintro ⟨more, rfl⟩
  obtain ⟨entry, known, matching⟩ := formed.recorded member
  have noChild := matching.child
  rw [leaf] at noChild
  have space := below.space formed
  simp [spaceAt?_append, reached.space formed, spaceAt?, known,
    noChild] at space

/-- A path has a cursor of one variable at most. -/
theorem CursorAt.unique (formed : WellFormed named selections)
    {path : List String} {first second : SubqueryId}
    (cursor : selections.CursorAt path (CompileState.cursorName first))
    (other : selections.CursorAt path (CompileState.cursorName second)) :
    first = second := by
  obtain ⟨parent, id, record, name, arguments, reached, member, rfl, signed⟩ :=
    cursor
  obtain ⟨sameParent, otherId, otherRecord, otherName, others, otherReached,
    otherMember, samePath, otherSigned⟩ := other
  obtain ⟨rfl, sameKey⟩ := List.append_inj' samePath rfl
  have equal :=
    (sameKey_matches formed (reached.sameSpace formed otherReached) member
      otherMember (by simpa using sameKey)).1
  rw [signed, otherSigned] at equal
  exact cursor_injective equal

end Selections

namespace CompileState

/-- A connection at the path is selected with the cursor of one of the paginated
connections. -/
def IsCursorPath (document : CompileState) (path : List String) : Prop :=
  ∃ subquery ∈ document.subqueries,
    document.selections.CursorAt path subquery.variableName

/-- The path does not pass through a paginated connection. -/
def IsOpen (document : CompileState) (path : List String) : Prop :=
  ∀ cursor, document.IsCursorPath cursor → ¬ cursor <+: path

/-- The path passes through no paginated connection, but may lead to one. -/
def IsExposed (document : CompileState) (path : List String) : Prop :=
  ∀ cursor, document.IsCursorPath cursor → cursor <+: path → cursor = path

theorem IsOpen.exposed {document : CompileState} {path : List String}
    (isOpen : document.IsOpen path) : document.IsExposed path :=
  fun cursor isCursor before => absurd before (isOpen cursor isCursor)

theorem isOpen_root (document : CompileState) : document.IsOpen [] := by
  rintro cursor ⟨subquery, _, parent, id, record, name, arguments, _, _, rfl, _⟩
    before
  have short := before.length_le
  simp at short

/-- What is read at an open path is exposed. -/
theorem IsOpen.below {document : CompileState} {path : List String}
    (isOpen : document.IsOpen path) (key : String) :
    document.IsExposed (path ++ [key]) := by
  intro cursor isCursor before
  rcases List.prefix_concat_iff.mp before with same | shorter
  · exact same
  · exact absurd shorter (isOpen cursor isCursor)

/-- A field whose name and arguments are names of the query language, and which
has no cursor variable. -/
def IsPlain (subqueries : List Subquery) (field : FieldDefinition)
    (arguments : List Argument) : Prop :=
  isGraphqlName field.name = true ∧
    ∀ argument ∈ arguments, argument.value.avoids subqueries = true

instance (subqueries : List Subquery) (field : FieldDefinition)
    (arguments : List Argument) :
    Decidable (IsPlain subqueries field arguments) :=
  inferInstanceAs (Decidable (_ ∧ _))

theorem opens_isOpen {named : String → Prop} {document : CompileState}
    (formed : document.WellFormed named) :
    Opens document document.IsOpen (IsPlain document.subqueries) := by
  rintro field arguments path set selected ⟨nameOf, avoids⟩ reached
    ⟨record, member, signed, _, rfl⟩ isOpen cursor isCursor before
  have samePath := (isOpen.below _) cursor isCursor before
  obtain ⟨subquery, known, parent, id, other, name, others, otherReached,
    otherMember, otherPath, otherSigned⟩ := isCursor
  obtain ⟨index, found⟩ := List.mem_iff_getElem?.mp known
  obtain ⟨sameParent, sameKey⟩ :=
    List.append_inj' (samePath.symm.trans otherPath) rfl
  subst parent
  have equal := (Selections.sameKey_matches formed.selections
    (reached.sameSpace formed.selections otherReached) member otherMember
    (by simpa [FieldRecord.selected] using sameKey)).1
  rw [signed, otherSigned] at equal
  refine signature_ne_cursor nameOf ?_ ?_ known (formed.numbered found).2 equal
  · intro argument written
    exact avoids argument (List.mem_of_mem_filter written)
  · intro argument written
    simpa using List.of_mem_filter written

end CompileState

end GraphPipeline
