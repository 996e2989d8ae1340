import GraphPipeline.Proofs.Compile.Records
import GraphPipeline.Proofs.Evaluation.Agreement
import GraphPipeline.Proofs.Mirroring

/-!
# The members of records

Every record of a pipeline is a part of the compiled program, and whenever that
part gives a record, the program of each field has one value on the projected
object.  The keys of the fields are assigned these values in order.  A key that
is assigned twice keeps its first place and its last value, so no field is lost
exactly if the keys are distinct.
-/

namespace GraphPipeline

namespace Program

variable {given : Option AllNodes} {bindings : Nat → Option Json}
  {programs : List (String × Program)} {depth : Nat} {object record : Json}

/-- Each field is assigned what its program gives. -/
theorem fieldPrograms_gives {before after : EvaluationState}
    {assignments : List (String × Json)}
    (run :
      (Evaluate.fieldPrograms given programs object).Runs before assignments
        after)
    (bound : before.binding? = bindings) :
    List.Forall₂ (fun program assignment => assignment.1 = program.1 ∧
      program.2.Gives given bindings object assignment.2) programs
        assignments := by
  induction programs generalizing before after assignments with
  | nil =>
      simp only [Evaluate.fieldPrograms, Evaluate.runs_pure] at run
      rw [← run.1]
      exact .nil
  | cons program programs induction =>
      obtain ⟨key, program⟩ := program
      simp only [Evaluate.fieldPrograms, Evaluate.runs_bind,
        Evaluate.runs_pure] at run
      obtain ⟨value, middle, first, assignments, _, rest, rfl, rfl⟩ := run
      have restored :=
        ((Evaluate.program_calm given program object).spares first).bindings
      exact .cons ⟨rfl, before, middle, first, bound⟩
        (induction rest (restored.trans bound))

theorem Gives.assignments
    (gives :
      (Program.buildRecord programs).Gives given bindings object record) :
    ∃ assignments, record = .object (Entries.ofAssignments assignments) ∧
      List.Forall₂ (fun program assignment => assignment.1 = program.1 ∧
        program.2.Gives given bindings object assignment.2) programs
          assignments := by
  obtain ⟨before, after, run, bound⟩ := gives
  simp only [Evaluate.program, Evaluate.runs_bind, Evaluate.runs_pure] at run
  obtain ⟨assignments, _, fields, rfl, _⟩ := run
  exact ⟨assignments, rfl, fieldPrograms_gives fields bound⟩

/-- Whether or not the projected object is bound, it may be taken to be. -/
theorem Gives.bound {program : Program}
    (gives : (program.bindIfRead depth).Gives given bindings object record) :
    program.Gives given (Function.update bindings depth (some object)) object
      record := by
  unfold bindIfRead at gives
  cases reads : program.readsBound depth with
  | false =>
      simp only [reads, Bool.false_eq_true, if_false] at gives
      exact gives.rebind_unread reads object
  | true =>
      simp only [reads, if_true] at gives
      obtain ⟨before, after, run, rfl⟩ := gives
      simp only [Evaluate.program, Evaluate.runs_binding] at run
      obtain ⟨last, inside, _⟩ := run
      exact ⟨_, last, inside, EvaluationState.binding?_rebind _ _ _⟩

end Program

open Compile

/-- Every record of an accepted pipeline is a part of the compiled program, the
fields being compiled where the parameters around them are in scope.  Wherever
that part gives a record, each field has one value on the object, given what is
bound around it and the object itself, and the keys are assigned these values in
order: the members are the distinct keys, each where it first comes up, with the
value of the last field of the key.  The members are those of the fields, one
for each, exactly if no key comes up twice. -/
theorem compiled_record_members {pipeline : Pipeline}
    {compiled : CompiledOperation}
    (success : compile pipeline = .ok compiled) {parameter : Parameter}
    {fields : List (String × Pipeline)} {enclosing : List Parameter}
    (has : pipeline.HasRecord parameter fields enclosing) :
    (∃ inside programs,
      HoldsRecord [rootScope compiled.operation.kind] parameter fields
      enclosing inside programs compiled.program) ∧
    ∀ {inside programs},
      HoldsRecord [rootScope compiled.operation.kind] parameter fields
        enclosing inside programs compiled.program →
      ∀ {given bindings object record},
        ((Program.buildRecord programs).bindIfRead (enclosing.length + 1)).Gives
          given bindings object record →
        ∃ members assignments, record = .object members ∧
          List.Forall₂ (fun program assignment => assignment.1 = program.1 ∧
            ∀ output, program.2.Gives given
                (Function.update bindings (enclosing.length + 1) (some object))
                  object output ↔
              output = assignment.2) programs assignments ∧
          Entries.keys members = (Entries.keys fields).reverse.dedup.reverse ∧
          (∀ key, Entries.lookup? members key =
            Entries.lookup? assignments.reverse key) ∧
          (members = assignments ↔ (Entries.keys fields).Nodup) := by
  refine ⟨compiled_holdsRecord success has, ?_⟩
  intro inside programs holds given bindings object record gives
  obtain ⟨assignments, rfl, each⟩ := gives.bound.assignments
  have sameKeys : Entries.keys assignments = Entries.keys fields := by
    rw [Entries.keys_eq_of_forall₂ (each.imp fun _ _ both => both.1),
      Entries.keys_eq_of_forall₂ (holds.compiled.imp fun _ _ both => both.1)]
  refine ⟨_, assignments, rfl, each.imp ?_, ?_,
    Entries.lookup?_ofAssignments assignments, ?_⟩
  · rintro program assignment ⟨sameKey, gives⟩
    refine ⟨sameKey, fun output => ⟨fun other => other.unique gives, ?_⟩⟩
    rintro rfl
    exact gives
  · rw [Entries.keys_ofAssignments, sameKeys]
  · rw [Entries.ofAssignments_eq_iff, sameKeys]

namespace Sample

/-- The title of an item, which is called `r`, and the login of the viewer of
the query around it, which is called `q`. -/
def itemFields (first second : String) : List (String × Pipeline) :=
  [(first, (Pipeline.parameter "r").property title),
    (second, ((Pipeline.parameter "q").property
      (viewer (TypeRef.object "User").nonNull)).property login)]

def itemPrograms (first second : String) : List (String × Program) :=
  [(first, .readScalar "title" title.type),
    (second, .parameter 1 (.field "viewer" (.readScalar "login" login.type)))]

theorem itemRecords_hasRecord (fields : List (String × Pipeline)) :
    (itemRecords fields).HasRecord "r" fields ["q"] := by
  let rows :=
    (((Pipeline.parameter "q").property itemList).select "r" fields).toList
  have here : rows.HasRecord "r" fields [] :=
    .here (List.mem_cons_of_mem _ List.mem_cons_self)
  have projects : Step.Projects (.record "q" [("rows", rows)]) "q" rows :=
    .record (List.mem_singleton_self _)
  exact .inside List.mem_cons_self projects here

/-- An item of the query. -/
def itemScopes : Scopes :=
  [{ parameter := some "r"
     object :=
       { set := 1, type := (TypeRef.object "Item").nonNull, absentOk := false,
         name := "items" }
     path := ["items"]
     repeated := true },
    { rootScope .query with parameter := some "q" }, rootScope .query]

/-- The items are selected before the fields of the record. -/
theorem compilesTo_ofItems {field : Pipeline} {program : Program}
    (compiles : ((selectIn Selections.rootId itemList [] >>= fun _ =>
      Compile.pipeline itemScopes field) .initial).map Prod.fst = .ok program) :
    CompilesTo itemScopes field program := by
  obtain ⟨⟨_, after⟩, compiled, rfl⟩ := Evaluate.map_eq_ok.mp compiles
  obtain ⟨_, middle, _, compiled⟩ := bind_eq_ok.mp compiled
  exact ⟨middle, after, compiled⟩

def oneItem : Json :=
  .object [(typenameKey, .string "Item"), ("title", .string "Typo")]

def itemsAndViewer : Json :=
  .object [("items", .array [oneItem]),
    ("viewer", .object [("login", .string "octocat")])]

/-- The query is bound while its items are projected. -/
def atItems : EvaluationState :=
  (EvaluationState.initial itemsAndViewer).rebind 1 (some itemsAndViewer)

end Sample

/-- Under different keys, neither the title of an item nor the login of the
viewer is lost. -/
theorem compile_itemRecords_members :
    ∃ compiled,
      compile (Sample.itemRecords (Sample.itemFields "title" "owner")) =
        .ok compiled ∧
      ∃ members assignments,
        Json.object [("title", .string "Typo"), ("owner", .string "octocat")] =
          .object members ∧
        List.Forall₂ (fun program assignment => assignment.1 = program.1 ∧
          ∀ output, program.2.Gives none
              (Function.update Sample.atItems.binding? 2 (some Sample.oneItem))
                Sample.oneItem
              output ↔
                output = assignment.2) (Sample.itemPrograms "title" "owner")
          assignments ∧
        members = assignments := by
  have evaluated :
      (compile (Sample.itemRecords (Sample.itemFields "title" "owner"))).map
        (fun compiled => (compiled.operation.kind, compiled.program)) =
      .ok (.query, .bind 1 (.buildRecord [("rows", .field "items" (.mapList 0
        (.buildRecord (Sample.itemPrograms "title" "owner"))))])) := by
    cbv
  obtain ⟨compiled, success, same⟩ := Evaluate.map_eq_ok.mp evaluated
  obtain ⟨sameKind, sameProgram⟩ := Prod.mk.inj same
  have holds : HoldsRecord [rootScope compiled.operation.kind] "r"
      (Sample.itemFields "title" "owner") ["q"] Sample.itemScopes
      (Sample.itemPrograms "title" "owner") compiled.program := by
    rw [sameKind, sameProgram]
    refine ⟨rfl, .cons ⟨rfl, Sample.compilesTo_ofItems (by cbv)⟩
      (.cons ⟨rfl, Sample.compilesTo_ofItems (by cbv)⟩ .nil), ?_⟩
    exact .mapList
      (.field (.buildRecord (.bind .self) (List.mem_singleton_self _)))
  have gives :
      ((Program.buildRecord (Sample.itemPrograms "title" "owner")).bindIfRead
        2).Gives none Sample.atItems.binding? Sample.oneItem
        (.object [("title", .string "Typo"), ("owner", .string "octocat")]) :=
    ⟨Sample.atItems, _, by rfl, rfl⟩
  obtain ⟨members, assignments, sameRecord, each, _, _, complete⟩ :=
    (compiled_record_members success (Sample.itemRecords_hasRecord _)).2 holds
      gives
  exact ⟨compiled, success, members, assignments, sameRecord, each,
    complete.mpr (by decide)⟩

/-- Under one key, the login of the viewer takes the place of the title of the
item. -/
theorem itemNames_overwritten :
    (Sample.itemRecords (Sample.itemFields "name" "name")).HasRecord "r"
        (Sample.itemFields "name" "name") ["q"] ∧
      (Sample.itemFields "name" "name").length = 2 ∧
      ∃ compiled,
        compile (Sample.itemRecords (Sample.itemFields "name" "name")) =
          .ok compiled ∧
        (compiled.program.collect Sample.itemsAndViewer).map Prod.fst =
          .ok
            (.object
              [("rows", .array [.object [("name", .string "octocat")]])]) := by
  have evaluated :
      (compile (Sample.itemRecords (Sample.itemFields "name" "name"))).map
        (fun compiled =>
          (compiled.program.collect Sample.itemsAndViewer).map Prod.fst) =
      .ok
        (.ok
          (.object
            [("rows", .array [.object [("name", .string "octocat")]])])) := by
    cbv
  obtain ⟨compiled, success, collected⟩ := Evaluate.map_eq_ok.mp evaluated
  exact ⟨Sample.itemRecords_hasRecord _, rfl, compiled, success, collected⟩

end GraphPipeline
