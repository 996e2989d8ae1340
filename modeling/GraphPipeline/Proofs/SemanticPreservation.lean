import GraphPipeline.Proofs.Compile.Meaning

/-!
# Compilation preserves meaning

The program of a pipeline, evaluated on any response that answers the document
of the pipeline for the root of a graph, has the value of the pipeline on the
graph.  Neither looks at the other: the value on the graph knows of no response
keys, fragments, frames or bindings.
-/

namespace GraphPipeline

/-- On a response that answers the document for the root of a graph, the
compiled program has exactly the value the pipeline has on the graph, and fails
if it has none. -/
theorem compile_preservesMeaning {pipeline : Pipeline}
    {compiled : CompiledOperation} {typed : TypedSet} {graph : Graph}
    {data : Json}
    (success : compile pipeline = .ok compiled)
    (named : pipeline.EachField fun field _ => isGraphqlName field.name = true)
    (plain : pipeline.isPlain compiled.operation.kind = true)
    (declared : pipeline.typedDocument? = some typed)
    (served : typed.ServedBy graph (graph.root compiled.operation.kind))
    (answers : compiled.operation.selections.Answers graph
      (graph.root compiled.operation.kind) data) :
    (compiled.program.collect data).toOption.map Prod.fst =
      pipeline.valueOn graph := by
  have names : Compile.PageNames fun name => isGraphqlName name = true :=
    ⟨by decide, by decide, by decide⟩
  obtain ⟨kind, document, outcome⟩ :=
    Compile.outcome_of_compile names named success
  have sameKind : compiled.operation.kind = kind := by
    rw [outcome.operation]
    rfl
  have sameSelections : compiled.operation.selections =
      (document.selections.typed Selections.rootId).erase := by
    rw [outcome.operation, Selections.erase_typed]
    rfl
  obtain rfl : typed = document.selections.typed Selections.rootId :=
    Option.some.inj (declared.symm.trans outcome.typed)
  rw [sameKind] at plain served answers
  rw [sameSelections] at answers
  obtain ⟨chain, walks, finished⟩ := outcome.walks
  obtain ⟨ends, _⟩ := walks_mean pipeline outcome.formed walks named plain
  have setting : Scopes.Setting document graph kind [Compile.rootScope kind] []
      (EvaluationState.initial data).binding? data :=
    ⟨.root rfl rfl ⟨answers, served⟩, rfl⟩
  have yields := ends.yields setting finished (.initial data) fun _ _ => rfl
  unfold Pipeline.valueOn
  rw [← yields]
  unfold Program.collect Evaluate.outcome
  cases (Evaluate.program none compiled.program data).result
    (.initial data) with
  | mk result state => cases result <;> rfl

namespace Sample

inductive IssueNode where
  | query
  | first
  | second

/-- An open issue and a closed one, the latter of which is the node. -/
def issueGraph : Graph where
  Node := IssueNode
  typeName
    | .query => "Query"
    | .first => "Issue"
    | .second => "Issue"
  root _ := .query
  resolve
    | .query, "issues", "(state: OPEN)" => .list [.object .first]
    | .query, "issues", "(state: CLOSED)" => .list [.object .second]
    | .query, "node", "" => .object .second
    | .first, "title", "" => .leaf (.string "Typo")
    | .second, "title", "" => .leaf (.string "Crash")
    | _, _, _ => .null

def issueData : Json :=
  .object
    [("issues", .array [.object [("title", .string "Typo")]]),
      ("issues1", .array [.object [("title", .string "Crash")]]),
      ("node",
       .object [(typenameKey, .string "Issue"), ("title", .string "Crash")])]

def titleField : TypedField := .mk "title" "title" title.type [] none

def issuesField (key state : String) : TypedField :=
  .mk "issues" key issues.type [⟨"state", .enumeration state⟩]
    (some (.mk false [titleField] []))

def issueDocument : TypedSet :=
  .mk false
    [issuesField "issues" "OPEN", issuesField "issues1" "CLOSED",
      .mk "node" "node" node.type []
        (some (.mk true [] [("Issue", .mk false [titleField] [])]))] []

/-- The nodes that are issues have titles. -/
theorem issue_served {node : IssueNode} (issue : node ≠ .query) :
    TypedSet.ServedBy issueGraph (.mk false [titleField] []) node := by
  refine ⟨⟨?_, trivial⟩, trivial⟩
  cases node with
  | query => exact absurd rfl issue
  | first => exact ⟨by decide, by decide, rfl, rfl⟩
  | second => exact ⟨by decide, by decide, rfl, rfl⟩

theorem issuesField_served {key state : String} {node : IssueNode}
    (issue : node ≠ .query)
    (resolved :
      issueGraph.field IssueNode.query "issues"
        [⟨"state", .enumeration state⟩] =
        .list [.object node]) :
    TypedField.ServedBy issueGraph (issuesField key state) IssueNode.query := by
  refine ⟨?_, ?_⟩
  · rw [resolved]
    exact ⟨Wrapping.required, by decide, ⟨by decide, by decide⟩, trivial⟩
  · rw [resolved]
    exact ⟨issue_served issue, trivial⟩

theorem openIssues : issueGraph.field IssueNode.query "issues"
    [⟨"state", .enumeration "OPEN"⟩] = .list [.object .first] := by
  cbv

theorem closedIssues : issueGraph.field IssueNode.query "issues"
    [⟨"state", .enumeration "CLOSED"⟩] = .list [.object .second] := by
  cbv

theorem issueDocument_served :
    issueDocument.ServedBy issueGraph IssueNode.query := by
  refine ⟨⟨issuesField_served (by simp) openIssues,
      issuesField_served (by simp) closedIssues, ⟨⟨by decide, by decide⟩, ?_⟩,
      trivial⟩, trivial⟩
  exact ⟨trivial, fun _ => issue_served (by simp), trivial⟩

/-- The title of an issue is answered by an object that holds it. -/
theorem issue_answered {node : IssueNode} {members : Entries Json}
    {text : String}
    (resolved : issueGraph.field node "title" [] = .leaf (.string text))
    (found : Entries.lookup? members "title" = some (.string text)) :
    (TypedSet.mk false [titleField] []).erase.Answers issueGraph node
      (.object members) := by
  refine ⟨members, rfl, ?_, ⟨⟨.string text, found, ?_⟩, trivial⟩, trivial⟩
  · intro asks
    cases asks
  · rw [resolved]
    rfl

theorem issueData_answers :
    issueDocument.erase.Answers issueGraph IssueNode.query issueData := by
  have typo :
      issueGraph.field IssueNode.first "title" [] = .leaf (.string "Typo") := by
    cbv
  have crash :
      issueGraph.field IssueNode.second "title" [] =
        .leaf (.string "Crash") := by
    cbv
  have node : issueGraph.field IssueNode.query "node" [] = .object .second := by
    cbv
  refine ⟨_, rfl, ?_, ⟨⟨_, rfl, ?_⟩, ⟨_, rfl, ?_⟩, ⟨_, rfl, ?_⟩, trivial⟩,
    trivial⟩
  · intro asks
    cases asks
  · rw [openIssues]
    exact ⟨_, rfl, _, _, rfl, issue_answered typo rfl, rfl⟩
  · rw [closedIssues]
    exact ⟨_, rfl, _, _, rfl, issue_answered crash rfl, rfl⟩
  · rw [node]
    exact ⟨_, rfl, fun _ => rfl, trivial, fun _ => issue_answered crash rfl,
      trivial⟩

end Sample

/-- The titles of the issues of the graph are extracted from its response. -/
theorem compile_issueTitles_preservesMeaning :
    ∃ compiled, compile Sample.issueTitles = .ok compiled ∧
      compiled.operation.selections.Answers Sample.issueGraph
        Sample.IssueNode.query Sample.issueData ∧
      (compiled.program.collect Sample.issueData).toOption.map Prod.fst =
        Sample.issueTitles.valueOn Sample.issueGraph ∧
      Sample.issueTitles.valueOn Sample.issueGraph = some (.object
        [("open", .array [.string "Typo"]),
         ("closed", .array [.string "Crash"]),
          ("node", .string "Crash")]) := by
  have accepted : (compile Sample.issueTitles).map (fun compiled =>
      (compiled.operation.kind, compiled.operation.selections)) =
        .ok (.query, Sample.issueDocument.erase) := by
    cbv
  have declared :
      Sample.issueTitles.typedDocument? = some Sample.issueDocument := by
    cbv
  have valued : Sample.issueTitles.valueOn Sample.issueGraph = some (.object
      [("open", .array [.string "Typo"]), ("closed", .array [.string "Crash"]),
        ("node", .string "Crash")]) := by
    cbv
  obtain ⟨compiled, success, same⟩ := Evaluate.map_eq_ok.mp accepted
  obtain ⟨sameKind, sameSelections⟩ := Prod.mk.inj same
  have answers := Sample.issueData_answers
  rw [← sameSelections] at answers
  refine ⟨compiled, success, answers, ?_, valued⟩
  apply compile_preservesMeaning success Sample.issueTitles_named ?_ declared
    Sample.issueDocument_served answers
  rw [sameKind]
  decide +kernel

end GraphPipeline
