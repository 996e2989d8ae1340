import GraphPipeline.Proofs.Compile.Repetition
import GraphPipeline.Proofs.ValueProjections

/-!
# Repeated selections

A projection can select a value twice, under two keys.  The second selection
adds nothing to the operation, because all it needs is there, and its program is
the program of the first one.  Whoever repeats an entry of a projection
therefore changes the record that is built, and neither the text that is sent
nor what is known of its variables and pages.
-/

namespace GraphPipeline

namespace Program

/-- The entries of the record a program builds, in the objects or lists it goes
into. -/
def recordEntries : Program → List (String × Program)
  | .field _ inner => inner.recordEntries
  | .readScalar _ _ => []
  | .optional inner => inner.recordEntries
  | .mapList _ inner => inner.recordEntries
  | .narrow _ _ inner => inner.recordEntries
  | .buildRecord fields => fields
  | .enforceSingle inner => inner.recordEntries
  | .toDictionary _ => []
  | .keyValue _ _ => []
  | .subquerySink _ _ inner => inner.recordEntries
  | .bind _ inner => inner.recordEntries
  | .parameter _ inner => inner.recordEntries

/-- The program with one more entry at the end of the record it builds. -/
def withEntry (program : Program) (key : String) (entry : Program) : Program :=
  match program with
  | .field response inner => .field response (inner.withEntry key entry)
  | .readScalar response type => .readScalar response type
  | .optional inner => .optional (inner.withEntry key entry)
  | .mapList filters inner => .mapList filters (inner.withEntry key entry)
  | .narrow typeName mode inner =>
    .narrow typeName mode (inner.withEntry key entry)
  | .buildRecord fields => .buildRecord (fields ++ [(key, entry)])
  | .enforceSingle inner => .enforceSingle (inner.withEntry key entry)
  | .toDictionary inner => .toDictionary inner
  | .keyValue first second => .keyValue first second
  | .subquerySink id keys inner =>
    .subquerySink id keys (inner.withEntry key entry)
  | .bind depth inner => .bind depth (inner.withEntry key entry)
  | .parameter depth inner => .parameter depth (inner.withEntry key entry)

variable {entry : Program} {name : String}

/-- A program reads no other elements if it evaluates one of its entries
twice. -/
theorem readsBound_withEntry (depth : Nat) (again : String) {program : Program}
    (member : (name, entry) ∈ program.recordEntries) :
    (program.withEntry again entry).readsBound depth =
      program.readsBound depth := by
  fun_induction withEntry program again entry with
  | case6 fields =>
      rw [readsBound, readsBound, Bool.eq_iff_iff, readsBoundInFields_iff,
        readsBoundInFields_iff]
      constructor
      · rintro ⟨field, inside, reads⟩
        rcases List.mem_append.mp inside with old | new
        · exact ⟨field, old, reads⟩
        · rw [List.mem_singleton.mp new] at reads
          exact ⟨_, member, reads⟩
      · rintro ⟨field, inside, reads⟩
        exact ⟨field, List.mem_append_left _ inside, reads⟩
  | _ => simp_all [recordEntries, readsBound]

theorem recordEntries_bindIfRead (depth : Nat) (program : Program) :
    (program.bindIfRead depth).recordEntries = program.recordEntries := by
  unfold bindIfRead
  split <;> rfl

theorem withEntry_bindIfRead (depth : Nat) (again : String) {program : Program}
    (member : (name, entry) ∈ program.recordEntries) :
    (program.bindIfRead depth).withEntry again entry =
      (program.withEntry again entry).bindIfRead depth := by
  rw [bindIfRead, bindIfRead, readsBound_withEntry depth again member]
  split <;> rfl

end Program

/-! ### Frames around a record -/

theorem recordEntries_fill (frame : Frame) (program : Program) :
    (frame.fill program).recordEntries = program.recordEntries := by
  cases frame with
  | bind depth => exact program.recordEntries_bindIfRead depth
  | _ => rfl

theorem recordEntries_fillFrames (frames : List Frame) (program : Program) :
    (fillFrames frames program).recordEntries = program.recordEntries := by
  induction frames with
  | nil => rfl
  | cons frame frames induction =>
    exact (recordEntries_fill frame _).trans induction

section

variable {program entry : Program} {name : String}

theorem withEntry_fill (frame : Frame) (again : String)
    (member : (name, entry) ∈ program.recordEntries) :
    (frame.fill program).withEntry again entry =
      frame.fill (program.withEntry again entry) := by
  cases frame with
  | bind depth => exact Program.withEntry_bindIfRead depth again member
  | _ => rfl

theorem withEntry_fillFrames (frames : List Frame) (again : String)
    (member : (name, entry) ∈ program.recordEntries) :
    (fillFrames frames program).withEntry again entry =
      fillFrames frames (program.withEntry again entry) := by
  induction frames with
  | nil => rfl
  | cons frame frames induction =>
      have inside :
          (name, entry) ∈ (fillFrames frames program).recordEntries := by
        rw [recordEntries_fillFrames]
        exact member
      exact (withEntry_fill frame again inside).trans
        (congrArg frame.fill induction)

end

/-! ### Calls of an entry -/

namespace Pipeline

theorem calls_subset_record {key : String} {entry : Pipeline}
    {fields : List (String × Pipeline)}
    (member : (key, entry) ∈ fields) : entry.calls ⊆ callsOfRecord fields := by
  induction fields with
  | nil => cases member
  | cons field fields induction =>
      obtain ⟨name, pipeline⟩ := field
      rw [callsOfRecord]
      rcases List.mem_cons.mp member with same | later
      · obtain ⟨rfl, rfl⟩ := Prod.mk.inj same
        exact List.subset_append_left _ _
      · exact fun _ made => List.mem_append_right _ (induction later made)

theorem callsOfRecord_subset_steps {parameter : Parameter}
    {fields : List (String × Pipeline)} {steps : List Step}
    (member : .record parameter fields ∈ steps) :
    callsOfRecord fields ⊆ callsOfSteps steps := by
  induction steps with
  | nil => cases member
  | cons step steps induction =>
      rw [callsOfSteps]
      rcases List.mem_cons.mp member with rfl | later
      · exact List.subset_append_left _ _
      · exact fun _ made => List.mem_append_right _ (induction later made)

end Pipeline

namespace Compile

variable {before middle after document : CompileState} {scopes : Scopes}

theorem compileFields_append {fields others : List (String × Pipeline)}
    {programs added : List (String × Program)}
    (first : compileFields scopes fields before = .ok (programs, middle))
    (second : compileFields scopes others middle = .ok (added, after)) :
    compileFields scopes (fields ++ others) before =
      .ok (programs ++ added, after) := by
  induction fields generalizing before programs with
  | nil =>
      simp only [compileFields, pure_eq_ok] at first
      obtain ⟨rfl, rfl⟩ := first
      exact second
  | cons field fields induction =>
      obtain ⟨key, pipeline⟩ := field
      obtain ⟨program, rest, inner, compiled, others, rfl⟩ :=
        compileFields_cons_eq_ok.mp first
      exact compileFields_cons_eq_ok.mpr
        ⟨program, rest ++ added, inner, compiled, induction others, rfl⟩

/-- Each entry of a record has a program, at its place among the programs. -/
theorem WalksFields.entry {fields : List (String × Pipeline)}
    {programs : List (String × Program)}
    (walks : WalksFields document scopes fields programs)
    {index : Nat} {key : String} {entry : Pipeline}
    (found : fields[index]? = some (key, entry)) :
    ∃ program chain, programs[index]? = some (key, program) ∧
      Walks document scopes entry chain ∧ chain.finish = .ok program := by
  induction fields generalizing programs index with
  | nil => cases found
  | cons field fields induction =>
      cases walks with
      | cons walks finished others =>
          cases index with
          | zero =>
              obtain ⟨rfl, rfl⟩ := Prod.mk.inj (Option.some.inj found)
              exact ⟨_, _, rfl, walks, finished⟩
          | succ index => exact induction others found

/-- A record that is compiled is compiled with one of its entries repeated, into
the same state. -/
theorem compileFields_repeat (formed : before.WellFormed AnyName)
    (bound : scopes.Within before.selections)
    {fields : List (String × Pipeline)} {programs : List (String × Program)}
    (compiling : compileFields scopes fields before = .ok (programs, after))
    (accepts : after.AcceptsCalls (Pipeline.callsOfRecord fields)) {index : Nat}
    {key : String} {entry : Pipeline}
    (found : fields[index]? = some (key, entry))
    (asksNone : entry.asksAllPages = false) (again : String) :
    ∃ program, programs[index]? = some (key, program) ∧
      compileFields scopes (fields ++ [(again, entry)]) before =
        .ok (programs ++ [(again, program)], after) := by
  obtain ⟨formedAfter, _, derives⟩ :=
    compileFields_arrives fields formed anyPageNames
      (Pipeline.eachFieldOfRecord (fun _ _ => trivial) fields) bound compiling
  obtain ⟨program, chain, read, walks, finished⟩ :=
    (derives after (CompileState.Grows.refl after)).entry found
  have walked := walkPipeline_again entry formedAfter asksNone
    (accepts.of_subset
      (Pipeline.calls_subset_record (List.mem_of_getElem? found)))
    (fun _ => position_of_finish finished) walks
  refine ⟨program, read, compileFields_append compiling ?_⟩
  exact compileFields_cons_eq_ok.mpr
    ⟨program, [], after, pipeline_eq_ok.mpr ⟨chain, walked, finished⟩, rfl, rfl⟩

/-- The steps before the last projection are compiled as if they were alone. -/
theorem pipeline_select (kind : OperationKind) (steps : List Step)
    (parameter : Parameter) (fields : List (String × Pipeline)) :
    Compile.pipeline [rootScope kind]
      ((Pipeline.mk (.root kind) steps).select parameter fields) =
      walk [rootScope kind] steps
        (.start [] [rootScope kind] 0 (rootScope kind)) >>= fun chain =>
        walk [rootScope kind] [.record parameter fields] chain >>= finish := by
  rw [Pipeline.select, Pipeline.push, Pipeline.source, Pipeline.steps,
    pipeline_root, walk_append _ steps rfl, bind_assoc]

/-- A pipeline ends in a record if its steps lead to an object before the
record. -/
theorem walk_record_eq_ok {parameter : Parameter}
    {fields : List (String × Pipeline)}
    {chain : Chain} {program : Program} :
    (walk scopes [.record parameter fields] chain >>= finish) before =
      .ok (program, after) ↔
      chain.terminal = none ∧
        ∃ object programs, chain.position = .object object ∧
        compileFields (chain.scope parameter object :: scopes) fields before =
          .ok (programs, after) ∧
        ({ chain with
            position :=
              .value ((Program.buildRecord programs).bindIfRead scopes.length)
                  false } : Chain).finish = .ok program := by
  simp only [finish, bind_eq_ok, liftM_eq_ok, walk_cons_eq_ok,
    walkStep_record_eq_ok]
  constructor
  · rintro ⟨_, _,
      ⟨goesOn, _, _, ⟨object, programs, atObject, compiling, rfl⟩, nothing⟩,
      finished, rfl⟩
    simp only [walk, pure_eq_ok] at nothing
    obtain ⟨rfl, rfl⟩ := nothing
    exact ⟨goesOn, object, programs, atObject, compiling, finished⟩
  · rintro ⟨goesOn, object, programs, atObject, compiling, finished⟩
    exact ⟨_, after,
      ⟨goesOn, _, after, ⟨object, programs, atObject, compiling, rfl⟩, rfl⟩,
      finished, rfl⟩

/-- Around a record the program is built in the same way, whatever the record
holds. -/
theorem finish_withEntry {chain : Chain} {record program entry : Program}
    {name : String}
    (member : (name, entry) ∈ record.recordEntries)
    (finished :
      ({ chain with position := .value record false } : Chain).finish =
        .ok program)
    (again : String) :
    program.recordEntries = record.recordEntries ∧
      ({ chain with position := .value (record.withEntry again entry) false } :
        Chain).finish =
        .ok (program.withEntry again entry) := by
  simp only [Chain.finish, Except.ok.injEq] at finished ⊢
  subst program
  cases chain.enforceSingle with
  | true =>
      exact ⟨recordEntries_fillFrames chain.frames record,
        congrArg Program.enforceSingle
          (withEntry_fillFrames chain.frames again member).symm⟩
  | false =>
      exact ⟨recordEntries_fillFrames chain.frames record,
        (withEntry_fillFrames chain.frames again member).symm⟩

end Compile

open Compile

/-- An entry of the last projection of an accepted pipeline can be repeated
under any key, unless it asks for all pages of a connection.  The pipeline is
accepted again, with the same operation and the same connections, and the record
holds the program of the entry twice. -/
theorem compile_repeated {pipeline : Pipeline} {parameter : Parameter}
    {fields : List (String × Pipeline)} {compiled : CompiledOperation}
    (accepted : compile (pipeline.select parameter fields) = .ok compiled)
    {index : Nat} {key : String} {entry : Pipeline}
    (found : fields[index]? = some (key, entry))
    (asksNone : entry.asksAllPages = false) (again : String) :
    ∃ program, compiled.program.recordEntries[index]? = some (key, program) ∧
      compile (pipeline.select parameter (fields ++ [(again, entry)])) =
        .ok { compiled with
          program := compiled.program.withEntry again program } := by
  obtain ⟨source, steps⟩ := pipeline
  cases source with
  | parameter other =>
      rw [Pipeline.select, Pipeline.push, Pipeline.source,
        compile_parameter] at accepted
      cases accepted
  | root kind =>
      obtain ⟨_, whole, document, sameKind, compiling, rfl, _⟩ :=
        compile_eq_ok accepted
      obtain rfl : kind = _ := Option.some.inj sameKind
      obtain ⟨_, accepts⟩ := pipeline_keepsCalls acceptsCalls_upkeep
        (Pipeline.eachField (fun _ _ => trivial) _)
          (by simp [CompileState.AcceptsCalls]) compiling
      rw [pipeline_select, bind_eq_ok] at compiling
      obtain ⟨chain, middle, walking, compiling⟩ := compiling
      obtain ⟨goesOn, object, programs, atObject, recording, finished⟩ :=
        walk_record_eq_ok.mp compiling
      have arrives := walk_root_arrives walking
      have bound := scope_within parameter
        ((rootScope_within kind).grow arrives.grows.selections) atObject
          arrives.within
      obtain ⟨program, read, repeated⟩ :=
        compileFields_repeat arrives.formed bound recording
          (accepts.of_subset
            (Pipeline.callsOfRecord_subset_steps
              (List.mem_append_right _ List.mem_cons_self))) found asksNone
          again
      have recorded :
          (key, program) ∈ (Program.buildRecord programs).recordEntries :=
        List.mem_of_getElem? read
      obtain ⟨entries, finishing⟩ := finish_withEntry
        (by rw [Program.recordEntries_bindIfRead]; exact recorded)
        finished again
      rw [Program.withEntry_bindIfRead _ _ recorded] at finishing
      refine ⟨program, ?_, ?_⟩
      · rw [entries, Program.recordEntries_bindIfRead]
        exact read
      · have compilingAgain : Compile.pipeline [rootScope kind]
            ((Pipeline.mk (.root kind) steps).select parameter
              (fields ++ [(again, entry)]))
            CompileState.initial =
              .ok (whole.withEntry again program, document) := by
          rw [pipeline_select, bind_of_ok walking]
          exact walk_record_eq_ok.mpr
            ⟨goesOn, object, programs ++ [(again, program)], atObject, repeated,
             finishing⟩
        exact (compile_root kind _).trans
          (congrArg (Except.map _) compilingAgain)

/-- The titles of closed issues are asked for twice, under the alias they have
already. -/
theorem compile_issueTitles_repeated :
    ∃ compiled program, compile Sample.issueTitles = .ok compiled ∧
      compiled.program.recordEntries[1]? = some ("closed", program) ∧
      compile ((Pipeline.root .query).select "query"
          ([("open", Sample.titles "OPEN"),
            ("closed", Sample.titles "CLOSED"),
            ("node", (((Pipeline.parameter "query").property Sample.node).cast
               "Issue").property
              Sample.title)] ++ [("closedAgain", Sample.titles "CLOSED")])) =
        .ok { compiled with
          program := compiled.program.withEntry "closedAgain" program } := by
  obtain ⟨compiled, success⟩ := Sample.issueTitles_accepted
  have asksNone : (Sample.titles "CLOSED").asksAllPages = false := rfl
  obtain ⟨program, read, again⟩ :=
    compile_repeated success
      (rfl : _[1]? = some ("closed", Sample.titles "CLOSED")) asksNone
      "closedAgain"
  exact ⟨compiled, program, success, read, again⟩

end GraphPipeline
