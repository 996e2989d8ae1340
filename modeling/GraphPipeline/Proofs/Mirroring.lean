import GraphPipeline.Proofs.Compile.Mirroring

/-!
# Programs mirror their documents

A finished program reads what its document selects and nothing else, if it is
taken to read below the elements its jumps lead to.  The listed paths of a
program are those of the document if its jumps stay at the same path.
-/

namespace GraphPipeline

/-- A compiled program reads the fields its document selects: located where its
jumps lead, its paths are those of the document, and so are the paths it lists,
unless a jump of it leads to another path. -/
theorem compiled_program_mirrors {pipeline : Pipeline}
    {compiled : CompiledOperation}
    (success : compile pipeline = .ok compiled) :
    (∀ path, path ∈ compiled.program.locatedPaths ↔
      path ∈ compiled.operation.selections.paths) ∧
    (compiled.program.jumpsInPlace = true → ∀ path,
      path ∈ compiled.program.readPaths ↔
        path ∈ compiled.operation.selections.paths) := by
  obtain ⟨kind, program, _, _, compiling, rfl, _⟩ := compile_eq_ok success
  simp only [Compile.pipeline, Compile.bind_eq_ok, Compile.finish,
    Compile.liftM_eq_ok] at compiling
  obtain ⟨_, document, walking, finished, rfl⟩ := compiling
  have formed := CompileState.initial_wellFormed Compile.AnyName
  have bound :
      Scopes.Within CompileState.initial.selections
        [Compile.rootScope kind] := by
    intro scope member
    obtain rfl := List.mem_singleton.mp member
    exact Nat.zero_lt_one
  have reached :
      Scopes.Reached [Compile.rootScope kind] CompileState.initial := by
    intro scope member
    obtain rfl := List.mem_singleton.mp member
    exact .root
  have along : Scopes.Along [Compile.rootScope kind] Spot.root.bound := by
    refine ⟨Places.root, ⟨Function.update_self .., trivial⟩, ?_⟩
    intro depth place below found
    obtain rfl : depth = 0 := Nat.lt_one_iff.mp below
    rw [← Option.some.inj found]
    rfl
  obtain ⟨own, rfl, arrives⟩ := Compile.walkPipeline_arrives pipeline formed
    Compile.anyPageNames (Pipeline.eachField (fun _ _ => trivial) pipeline)
      bound walking
  obtain ⟨tracks, reflects⟩ := Compile.walkPipeline_mirrors pipeline formed
    Selections.initial_isTree bound reached walking
  rw [Chain.under_nil] at finished
  obtain ⟨added, adds, reads⟩ := reflects.finish tracks finished
  have located : ∀ path, path ∈ program.locatedPaths ↔
      path ∈ (document.operation kind).selections.paths := by
    intro path
    calc path ∈ program.locatedPaths
        ↔ path ∈ added := reads along path
      _ ↔ document.selections.FieldAt path := by
          rw [adds.fieldAt]
          exact (or_iff_right (Selections.not_fieldAt_initial path)).symm
      _ ↔ path ∈ (document.operation kind).selections.paths :=
          (Selections.mem_paths_iff arrives.formed.selections adds.tree).symm
  refine ⟨located, ?_⟩
  intro inPlace path
  rw [Program.readPaths_eq_located inPlace]
  exact located path

namespace Sample

def itemList : FieldDefinition :=
  { name := "items"
    type := (TypeRef.object "Item").nonNull.listOf.nonNull
    arguments := [] }

def viewer (type : TypeRef) : FieldDefinition :=
  { name := "viewer", type, arguments := [] }

def login : FieldDefinition :=
  { name := "login", type := (TypeRef.scalar .string).nonNull, arguments := [] }

/-- A record for every item, which is called `r`, of the query, which is called
`q`. -/
def itemRecords (fields : List (String × Pipeline)) : Pipeline :=
  (Pipeline.root .query).select "q"
    [("rows",
      (((Pipeline.parameter "q").property itemList).select "r" fields).toList)]

/-- A record inside of every item goes back to the item for its title. -/
def ownTitles : Pipeline :=
  itemRecords [("own", (Pipeline.parameter "r").select "s"
    [("title", (Pipeline.parameter "r").property title)])]

/-- Every item goes back to the query for its viewer. -/
def capturedViewer : Pipeline :=
  itemRecords [("me", ((Pipeline.parameter "q").property
    (viewer (TypeRef.object "User").nonNull)).property login)]

/-- The paths a compiled program lists, and those of its document. -/
def listedPaths (compiled : CompiledOperation) :
    List (List String) × List (List String) :=
  (compiled.program.readPaths, compiled.operation.selections.paths)

end Sample

/-- A jump to the element itself stays in place. -/
theorem compile_ownTitles_mirrors :
    ∃ compiled, compile Sample.ownTitles = .ok compiled ∧
      compiled.program.jumpsInPlace = true ∧ ∀ path,
        path ∈ compiled.program.readPaths ↔
          path ∈ compiled.operation.selections.paths := by
  have inPlace :
      ((compile Sample.ownTitles).map (·.program.jumpsInPlace)) = .ok true := by
    cbv
  cases success : compile Sample.ownTitles with
  | error error =>
      rw [success] at inPlace
      cases inPlace
  | ok compiled =>
      rw [success] at inPlace
      have inPlace := Except.ok.inj inPlace
      exact ⟨compiled, rfl, inPlace,
        (compiled_program_mirrors success).2 inPlace⟩

/-- The captured viewer is listed below the items, where the document does not
select it, and not at the root, where it does. -/
theorem capturedViewer_misplaced :
    (compile Sample.capturedViewer).map Sample.listedPaths =
      .ok ([["items"], ["items", "viewer"], ["items", "viewer", "login"]],
        [["items"], ["viewer"], ["viewer", "login"]]) := by
  cbv

end GraphPipeline
