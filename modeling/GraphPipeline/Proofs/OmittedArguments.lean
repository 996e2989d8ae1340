import GraphPipeline.Proofs.Compile.Omissions
import GraphPipeline.Proofs.Pagination

/-!
# Omitted arguments

An argument that is omitted, and an omitted field of an input object in an
argument, leave no trace in what a pipeline compiles to.  Only an omitted item
of a list does: it is written as null, because the items after it must keep
their places.
-/

namespace GraphPipeline

/-! ### Written documents -/

namespace Selections

section

variable {first second : SetId → SelectionSet}
  (same : ∀ depth id, (first id).render depth = (second id).render depth)

include same

theorem renderFields_withoutOmitted (depth : Nat) (records : List FieldRecord) :
    SelectionSet.renderFields depth
        ((records.map FieldRecord.withoutOmitted).map fun record =>
          .mk record.name
            (if record.key = record.name then none else some record.key)
            record.arguments (record.child.map first)) =
      SelectionSet.renderFields depth (records.map fun record =>
        .mk record.name
          (if record.key = record.name then none else some record.key)
          record.arguments (record.child.map second)) := by
  induction records with
  | nil => rfl
  | cons record records induction =>
      simp only [List.map_cons, SelectionSet.renderFields, induction]
      simp only [FieldRecord.withoutOmitted]
      cases record.child with
      | none =>
          simp only [Option.map_none, SelectionSet.renderField,
            FieldSelection.heading, FieldSelection.arguments,
            Argument.renderAll_withoutOmitted]
          rfl
      | some set =>
          simp only [Option.map_some, SelectionSet.renderField,
            FieldSelection.heading, FieldSelection.arguments,
            Argument.renderAll_withoutOmitted, same]
          rfl

theorem renderFragments_withoutOmitted (depth : Nat)
    (fragments : Entries SetId) :
    SelectionSet.renderFragments depth
        (fragments.map fun fragment => (fragment.1, first fragment.2)) =
      SelectionSet.renderFragments depth
        (fragments.map fun fragment => (fragment.1, second fragment.2)) := by
  induction fragments with
  | nil => rfl
  | cons fragment fragments induction =>
      simp only [List.map_cons, SelectionSet.renderFragments, induction, same]

end

/-- A set is written alike with and without what is omitted in its arguments. -/
theorem render_withoutOmitted (selections : Selections) (levels depth : Nat)
    (id : SetId) :
    (selections.withoutOmitted.materializeTo levels id).render depth =
      (selections.materializeTo levels id).render depth := by
  induction levels generalizing depth id with
  | zero => rfl
  | succ levels induction =>
      simp only [materializeTo, set_withoutOmitted, SelectionSet.render]
      simp only [SetRecord.withoutOmitted, List.isEmpty_map,
        renderFields_withoutOmitted induction,
        renderFragments_withoutOmitted induction]

end Selections

/-- The text of a finished document does not change. -/
theorem CompileState.render_withoutOmitted (state : CompileState)
    (kind : OperationKind) :
    (state.withoutOmitted.operation kind).render =
      (state.operation kind).render := by
  have sameLength : state.selections.withoutOmitted.sets.length =
      state.selections.sets.length :=
    List.length_map _
  simp only [operation, Operation.render, withoutOmitted,
    Selections.materialize, sameLength, Selections.render_withoutOmitted]

/-- If no list in its arguments has an omitted item, nothing is omitted in a
pipeline after its omitted arguments and the omitted fields of its input objects
are deleted, and it compiles to the same document and program. -/
theorem compile_withoutOmitted {pipeline : Pipeline}
    {compiled : CompiledOperation}
    (lists : pipeline.EachField Pipeline.ListsComplete)
    (success : compile pipeline = .ok compiled) :
    pipeline.withoutOmitted.EachField Pipeline.NothingOmitted ∧
      ∃ other, compile pipeline.withoutOmitted = .ok other ∧
        other.queryText = compiled.queryText ∧
        other.operation.kind = compiled.operation.kind ∧
        other.operation.variableDefinitions =
          compiled.operation.variableDefinitions ∧
        other.program = compiled.program ∧
        other.subqueries = compiled.subqueries := by
  obtain ⟨kind, program, state, starts, compiling, rfl, -⟩ :=
    compile_eq_ok success
  have follows :
      Compile.Follows (Compile.pipeline [Compile.rootScope kind] pipeline)
        (Compile.pipeline [Compile.rootScope kind] pipeline.withoutOmitted) :=
    (Compile.walkPipeline_follows _ [] pipeline).bind
      fun _ => Compile.finish_follows _
  refine ⟨Pipeline.eachField_withoutOmitted pipeline lists,
    { operation := state.withoutOmitted.operation kind, program,
      subqueries := state.subqueries }, ?_, ?_⟩
  · have other :
        Compile.pipeline [Compile.rootScope kind] pipeline.withoutOmitted
            CompileState.initial = .ok (program, state.withoutOmitted) :=
      follows.run compiling
    unfold compile
    rw [Pipeline.operationKind?_withoutOmitted, starts]
    simp only [other]
    rfl
  · exact ⟨state.render_withoutOmitted kind, rfl, rfl, rfl, rfl⟩

namespace Sample

/-- Items that are searched for, page by page. -/
def foundItems : FieldDefinition :=
  { name := "items"
    type := (TypeRef.object "ItemConnection").nonNull
    arguments :=
      [⟨"first", TypeRef.scalar .int⟩, ⟨"filter", TypeRef.inputObject "Filter"⟩,
       ⟨"after", TypeRef.scalar .string⟩] }

/-- Items with a label, of any state and by anybody. -/
def labelFilter : ArgumentValue :=
  .object [⟨"state", TypeRef.enumeration "State", .omitted⟩,
    ⟨"labels", (TypeRef.scalar .string).listOf, .list [.variableRef "label"]⟩,
    ⟨"author", TypeRef.inputObject "Author",
      .object [⟨"login", TypeRef.scalar .string, .omitted⟩]⟩]

/-- The same with nothing omitted in it. -/
def shortLabelFilter : ArgumentValue :=
  .object [⟨"labels", (TypeRef.scalar .string).listOf,
      .list [.variableRef "label"]⟩,
    ⟨"author", TypeRef.inputObject "Author", .object []⟩]

/-- All labelled items, and the first ones, with and without the filter written
out. -/
def labelled (all first again : List Argument) : Pipeline :=
  let page (arguments : List Argument) : Pipeline :=
    titlesOf
      (((Pipeline.parameter "query").call foundItems arguments).property nodes)
  (Pipeline.root .query).select "query"
    [("all", titlesOf
        (((Pipeline.parameter "query").call foundItems all).allPages nodes)),
     ("first", page first), ("again", page again)]

def labelledLoosely : Pipeline :=
  labelled [⟨"first", .omitted⟩, ⟨"after", .omitted⟩, ⟨"filter", labelFilter⟩]
    [⟨"filter", labelFilter⟩, ⟨"after", .omitted⟩]
    [⟨"after", .omitted⟩, ⟨"filter", shortLabelFilter⟩]

def labelledStrictly : Pipeline :=
  labelled [⟨"filter", shortLabelFilter⟩] [⟨"filter", shortLabelFilter⟩]
    [⟨"filter", shortLabelFilter⟩]

/-- The connection is selected twice: the last two calls are one. -/
def labelledText : String :=
  "query($label: String, $cursor0: String) \x7b\n" ++
  "  items(filter: \x7blabels: [$label], author: \x7b\x7d\x7d, " ++
  "after: $cursor0) \x7b\n" ++
  "    pageInfo \x7b\n      hasNextPage\n      endCursor\n    \x7d\n" ++
  "    nodes \x7b\n      title\n    \x7d\n  \x7d\n" ++
  "  items1: items(filter: \x7blabels: [$label], author: \x7b\x7d\x7d) " ++
  "\x7b\n" ++
  "    nodes \x7b\n      title\n    \x7d\n  \x7d\n\x7d\n"

end Sample

theorem compile_labelled_withoutOmitted :
    ∃ compiled other, compile Sample.labelledLoosely = .ok compiled ∧
      Sample.labelledLoosely.withoutOmitted = Sample.labelledStrictly ∧
        compile Sample.labelledStrictly = .ok other ∧
          compiled.queryText = Sample.labelledText ∧
            other.queryText = Sample.labelledText ∧
              other.program = compiled.program := by
  have evaluated : (compile Sample.labelledLoosely).map (·.queryText) =
      .ok Sample.labelledText := by
    cbv
  obtain ⟨compiled, success, written⟩ := Evaluate.map_eq_ok.mp evaluated
  have strict :
      Sample.labelledLoosely.withoutOmitted = Sample.labelledStrictly := by
    cbv
  have lists : Sample.labelledLoosely.EachField Pipeline.ListsComplete := by
    decide +kernel
  obtain ⟨-, other, accepted, sameText, -, -, sameProgram, -⟩ :=
    compile_withoutOmitted lists success
  exact ⟨compiled, other, success, strict, strict ▸ accepted, written,
    sameText.trans written, sameProgram⟩

end GraphPipeline
