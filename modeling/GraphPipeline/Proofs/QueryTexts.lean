import GraphPipeline.Proofs.ClosedDocuments
import GraphPipeline.Proofs.Compile.NumberedKeys
import GraphPipeline.Proofs.DocumentTexts

/-!
# Query texts

Two compiled documents with the same text are the same document, but for
argument values that are written alike.  A document is compiled into an arena,
in which response keys are numbered names.  So aliases are names if the fields
of the document have names, and the text can be read back.
-/

namespace GraphPipeline

namespace SelectionSet

variable {holds : SelectionSet → Prop}

theorem eachOfFields_iff {fields : List FieldSelection} :
    EachOfFields holds fields ↔ ∀ field ∈ fields, EachOfField holds field := by
  induction fields with
  | nil => simp [EachOfFields]
  | cons field fields induction =>
    rw [EachOfFields, induction, List.forall_mem_cons]

theorem eachOfFragments_iff {fragments : List (String × SelectionSet)} :
    EachOfFragments holds fragments ↔
      ∀ fragment ∈ fragments, fragment.2.Each holds := by
  induction fragments with
  | nil => simp [EachOfFragments]
  | cons fragment fragments induction =>
      obtain ⟨typeName, set⟩ := fragment
      rw [EachOfFragments, induction, List.forall_mem_cons]

end SelectionSet

namespace Selections

variable {named : String → Prop} {selections : Selections}
  {holds : SelectionSet → Prop}

theorem eachOfField_written {record : FieldRecord} :
    SelectionSet.EachOfField holds (selections.written record) ↔
      ∀ child, record.child = some child →
        (selections.materialize child).Each holds := by
  cases below : record.child with
  | none => simp [written, below, SelectionSet.EachOfField]
  | some child => simp [written, below, SelectionSet.EachOfField]

/-- What holds in all of a document holds of a set and in all of the sets below
it. -/
theorem each_materialize_iff (formed : selections.WellFormed named)
    (id : SetId) :
    (selections.materialize id).Each holds ↔ holds (selections.materialize id) ∧
      ∀ child ∈ (selections.set id).children,
        (selections.materialize child).Each holds := by
  rw [materialize_eq formed id, SelectionSet.Each,
    SelectionSet.eachOfFields_iff, SelectionSet.eachOfFragments_iff,
    List.forall_mem_map, List.forall_mem_map]
  refine and_congr_right fun _ => ?_
  simp only [eachOfField_written, SetRecord.children, List.mem_append,
    List.mem_filterMap, List.mem_map]
  constructor
  · rintro ⟨fields, fragments⟩ child
      (⟨record, member, below⟩ | ⟨fragment, member, rfl⟩)
    · exact fields record member child below
    · exact fragments fragment member
  · intro all
    exact ⟨fun record member child below =>
        all child (.inl ⟨record, member, below⟩),
      fun fragment member => all fragment.2 (.inr ⟨fragment, member, rfl⟩)⟩

theorem WellFormed.child_after (formed : selections.WellFormed named)
    {id child : SetId}
    (below : child ∈ (selections.set id).children) :
    id < child ∧ child < selections.sets.length := by
  rcases List.mem_append.mp below with inField | inFragment
  · obtain ⟨record, member, same⟩ := List.mem_filterMap.mp inField
    exact formed.childAfter member same
  · obtain ⟨fragment, member, rfl⟩ := List.mem_map.mp inFragment
    exact formed.fragmentAfter member

/-- Every set but that of the root is below a set of the arena. -/
theorem IsForest.exists_parent (forest : selections.IsForest) {id : SetId}
    (inside : id < selections.sets.length) (below : id ≠ rootId) :
    ∃ parent, id ∈ (selections.set parent).children := by
  have positive : 0 < id := Nat.pos_of_ne_zero below
  have listed : id ∈ selections.children := by
    rw [forest.children.mem_iff, List.mem_range'_1,
      Nat.add_sub_of_le forest.nonempty]
    exact ⟨positive, inside⟩
  obtain ⟨set, member, child⟩ := List.mem_flatMap.mp listed
  obtain ⟨parent, found⟩ := List.mem_iff_getElem?.mp member
  refine ⟨parent, ?_⟩
  rw [set_eq_of_getElem? found]
  exact child

/-- The document of a forest is made of all of its sets. -/
theorem IsForest.each (forest : selections.IsForest)
    (formed : selections.WellFormed named)
    (all : (selections.materialize rootId).Each holds) {id : SetId}
    (inside : id < selections.sets.length) :
    (selections.materialize id).Each holds := by
  induction id using Nat.strong_induction_on with
  | h id induction =>
      by_cases root : id = rootId
      · subst id
        exact all
      · obtain ⟨parent, child⟩ := forest.exists_parent inside root
        have after := (formed.child_after child).1
        have holdsAbove := induction parent after (Nat.lt_trans after inside)
        exact ((each_materialize_iff formed parent).mp holdsAbove).2 id child

/-- What holds of all sets of an arena holds in all of a document. -/
theorem each_of_forall (formed : selections.WellFormed named)
    (all : ∀ id, holds (selections.materialize id)) (id : SetId) :
    (selections.materialize id).Each holds :=
  (each_materialize_iff formed id).mpr
    ⟨all id, fun child _ => each_of_forall formed all child⟩
termination_by selections.sets.length - id
decreasing_by
  -- The sets below a set come after it, and there are only so many.
  have after := formed.child_after ‹_›
  exact Nat.sub_lt_sub_left (Nat.lt_trans after.1 after.2) after.1

/-! ### Reading compiled documents back -/

theorem Arranged.readable (arranged : selections.Arranged)
    (formed : selections.WellFormed named) (forest : selections.IsForest)
    (allNamed : (selections.materialize rootId).Each SelectionSet.IsNamed) :
    (selections.materialize rootId).Each SelectionSet.Readable := by
  have setNamed : ∀ {id}, id < selections.sets.length →
      (selections.materialize id).IsNamed := fun inside =>
    ((each_materialize_iff formed _).mp (forest.each formed allNamed inside)).1
  -- The key of a record may have been taken for a record of another set, so
  -- that the names of all sets have to be known first.
  have recordNamed : ∀ {id record}, record ∈ (selections.set id).fields →
      (selections.written record).IsNamed := by
    intro id record member
    apply (setNamed (lt_of_mem_fields member)).fields
    rw [materialize_eq formed]
    exact List.mem_map_of_mem member
  have keyNamed : ∀ {id record}, record ∈ (selections.set id).fields →
      isGraphqlName record.key = true := by
    intro id record member
    obtain ⟨entry, found, _⟩ := formed.recorded member
    obtain ⟨_, other, _, otherMember, candidate⟩ := arranged.numbered found
    exact isGraphqlName_of_mem_keyCandidates (recordNamed otherMember).name
      candidate
  refine each_of_forall formed (fun id => ?_) rootId
  constructor
  · rw [materialize_eq formed]
    simpa [SelectionSet.requiresTypename, SelectionSet.fragments]
      using arranged.typename id
  · intro field member
    rw [materialize_eq formed] at member
    obtain ⟨record, recorded, rfl⟩ := List.mem_map.mp member
    refine ⟨recordNamed recorded, fun key aliased => ?_⟩
    simp only [written, FieldSelection.responseAlias] at aliased
    split at aliased
    · cases aliased
    · obtain rfl := Option.mem_some_iff.mp aliased
      exact keyNamed recorded
  · intro fragment member
    have inside : id < selections.sets.length := by
      rw [materialize_eq formed] at member
      obtain ⟨recorded, memberOf, _⟩ := List.mem_map.mp member
      have after := formed.fragmentAfter memberOf
      exact Nat.lt_trans after.1 after.2
    exact (setNamed inside).fragments fragment member

end Selections

/-- The text of a compiled document can be read back if all names in it are
names of the query language.  Its aliases need not be assumed to be. -/
theorem CompiledOperation.readable {pipeline : Pipeline}
    {compiled : CompiledOperation}
    (success : compile pipeline = .ok compiled)
    (named : compiled.operation.IsNamed) :
    compiled.operation.Readable := by
  have upkeep :=
    CompileState.Closed.callUpkeep.and Selections.Arranged.upkeep.callUpkeep
  obtain ⟨kind, document, sameOperation, _, formed, closed, arranged⟩ :=
    Compile.compiled_keepsCalls upkeep (pipeline.eachField fun _ _ => trivial)
      ⟨.initial, Selections.initial_arranged⟩ success
  rw [sameOperation] at named ⊢
  exact ⟨named.declared,
    arranged.readable formed.selections closed.forest named.selections⟩

/-- The text of a compiled document determines the document: its kind, its
variables and its selections, in order.  Argument values are determined up to
their own texts, so two numbers, or an enumeration value and a literal, may
stand for one another if they are written alike. -/
theorem queryText_determines {pipeline other : Pipeline}
    {compiled otherCompiled : CompiledOperation}
    (success : compile pipeline = .ok compiled)
    (otherSuccess : compile other = .ok otherCompiled)
    (named : compiled.operation.IsNamed)
    (otherNamed : otherCompiled.operation.IsNamed)
    (same : compiled.queryText = otherCompiled.queryText) :
    compiled.operation.kind = otherCompiled.operation.kind ∧
      compiled.operation.variableDefinitions =
        otherCompiled.operation.variableDefinitions ∧
        compiled.operation.selections.asWritten =
          otherCompiled.operation.selections.asWritten :=
  Operation.render_injective (compiled.readable success named)
    (otherCompiled.readable otherSuccess otherNamed) same

namespace Sample

/-- An item by some titles and an item by a title that is asked for. -/
def titledOrAsked (titles : ArgumentValue) : Pipeline :=
  let titleOf (titles : ArgumentValue) :=
    ((Pipeline.parameter "query").call titledAmong
      [⟨"titles", titles⟩]).property title
  (Pipeline.root .query).select "query"
    [("shown", titleOf titles),
     ("found", titleOf (.list [.variableRef "first"]))]

def titledOrAskedOperation (titles : ArgumentValue) : Operation :=
  let titleOnly : SelectionSet := .mk false [.mk "title" none [] none] []
  { kind := .query
    variableDefinitions := [⟨"first", "String"⟩]
    selections := .mk false
      [.mk "titled" none [⟨"titles", titles⟩] (some titleOnly),
        .mk "titled" (some "titled1") [⟨"titles", .list [.variableRef "first"]⟩]
          (some titleOnly)] [] }

theorem titledOrAskedOperation_isNamed {titles : ArgumentValue}
    (named : titles.isNamed = true) :
    (titledOrAskedOperation titles).IsNamed := by
  have titled :
      ∀ (key : Option String) {titles : ArgumentValue}
          (set : Option SelectionSet), titles.isNamed = true →
        (FieldSelection.mk "titled" key [⟨"titles", titles⟩] set).IsNamed := by
    intro key titles set given
    have nameOf : isGraphqlName "titled" = true ∧ "titled" ≠ typenameKey := by
      decide
    have argumentName : isGraphqlName "titles" = true := by decide
    refine ⟨nameOf.1, nameOf.2, fun argument member => ?_⟩
    obtain rfl := List.mem_singleton.mp member
    exact Bool.and_eq_true_iff.mpr ⟨argumentName, given⟩
  have titleOnly : (SelectionSet.mk false [.mk "title" none [] none] []).Each
      SelectionSet.IsNamed := by
    refine ⟨⟨?_, nofun⟩, ⟨trivial, trivial⟩, trivial⟩
    intro field member
    obtain rfl := List.mem_singleton.mp member
    exact ⟨by decide, by decide, nofun⟩
  constructor
  · intro definition member
    obtain rfl := List.mem_singleton.mp member
    exact ⟨by decide, TypeRef.scalar .string, rfl, by decide⟩
  · refine ⟨⟨?_, nofun⟩, ⟨titleOnly, titleOnly, trivial⟩, trivial⟩
    intro field member
    rcases List.mem_pair.mp member with rfl | rfl
    · exact titled none _ named
    · exact titled (some "titled1") _ (by decide)

/-- A list of two titles, and a literal that is written like it. -/
def listedTitles : ArgumentValue :=
  .list [.literal (.string "a, b"), .literal .null]

def literalTitles : ArgumentValue :=
  .literal (.array [.string "a, b", .null])

end Sample

/-- A list and a literal that are written alike make the same document. -/
theorem queryText_determines_titles :
    ∃ compiled otherCompiled,
      compile (Sample.titledOrAsked Sample.listedTitles) = .ok compiled ∧
      compile (Sample.titledOrAsked Sample.literalTitles) = .ok otherCompiled ∧
      compiled.operation.IsNamed ∧ otherCompiled.operation.IsNamed ∧
      compiled.queryText = otherCompiled.queryText ∧
      compiled.operation.kind = otherCompiled.operation.kind ∧
      compiled.operation.variableDefinitions =
        otherCompiled.operation.variableDefinitions ∧
      compiled.operation.selections.asWritten =
        otherCompiled.operation.selections.asWritten := by
  have computed : (compile (Sample.titledOrAsked Sample.listedTitles)).map
      CompiledOperation.operation =
        .ok (Sample.titledOrAskedOperation Sample.listedTitles) := by
    cbv
  have otherComputed : (compile (Sample.titledOrAsked Sample.literalTitles)).map
      CompiledOperation.operation =
        .ok (Sample.titledOrAskedOperation Sample.literalTitles) := by
    cbv
  obtain ⟨compiled, success, operation⟩ := Evaluate.map_eq_ok.mp computed
  obtain ⟨otherCompiled, otherSuccess, otherOperation⟩ :=
    Evaluate.map_eq_ok.mp otherComputed
  have named : compiled.operation.IsNamed := by
    rw [operation]
    exact Sample.titledOrAskedOperation_isNamed (by decide)
  have otherNamed : otherCompiled.operation.IsNamed := by
    rw [otherOperation]
    exact Sample.titledOrAskedOperation_isNamed (by decide)
  have same : compiled.queryText = otherCompiled.queryText := by
    rw [CompiledOperation.queryText, operation, CompiledOperation.queryText,
      otherOperation]
    cbv
  exact ⟨compiled, otherCompiled, success, otherSuccess, named, otherNamed,
    same, queryText_determines success otherSuccess named otherNamed same⟩

end GraphPipeline
