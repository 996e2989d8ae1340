import GraphPipeline.Proofs.Compile.ListFilters
import GraphPipeline.Proofs.Compile.Records
import GraphPipeline.Proofs.Evaluation.Dictionaries
import GraphPipeline.Proofs.ValueProjections

/-!
# Dictionaries in compiled programs

A pipeline that ends in a dictionary is compiled to a program that builds it.
The frames around the mapped list stay around the dictionary, and those inside
of it lead each element to its entry, a key and a value that are compiled where
the parameter of the step is in scope.
-/

namespace GraphPipeline

section frames

theorem entries?_bindIfRead (program : Program) (depth : Nat) :
    (program.bindIfRead depth).entries? = program.entries? := by
  unfold Program.bindIfRead
  split <;> rfl

theorem pair?_bindIfRead (program : Program) (depth : Nat) :
    (program.bindIfRead depth).pair? = program.pair? := by
  unfold Program.bindIfRead
  split <;> rfl

theorem entries?_fillFrames {frames : List Frame}
    (unmapped : ∀ frame ∈ frames, frame.isMapList = false) (program : Program) :
    (fillFrames frames program).entries? = program.entries? := by
  induction frames with
  | nil => rfl
  | cons frame frames induction =>
      have inside := induction fun other member =>
        unmapped other (List.mem_cons_of_mem _ member)
      cases frame with
      | mapList filters => cases unmapped _ List.mem_cons_self
      | bind depth => exact (entries?_bindIfRead _ _).trans inside
      | _ => exact inside

theorem pair?_fillFrames {frames : List Frame}
    (keeps : ∀ frame ∈ frames, frame.keepsEntry = true) (program : Program) :
    (fillFrames frames program).pair? = program.pair? := by
  induction frames with
  | nil => rfl
  | cons frame frames induction =>
      have inside := induction fun other member =>
        keeps other (List.mem_cons_of_mem _ member)
      have kept := keeps frame List.mem_cons_self
      cases frame with
      | mapList filters => cases kept
      | subquerySink id keys => cases kept
      | bind depth => exact (pair?_bindIfRead _ _).trans inside
      | _ => exact inside

end frames

/-- A program builds a dictionary from the list some steps lead to.  The filters
the steps apply to the elements are on the way to the entries, in order.  The
programs of the keys and the values are compiled where the parameter of the
dictionary is in scope. -/
structure Program.HoldsDictionary (program : Program) (steps : List Step)
    (parameter : Parameter) (key value : Pipeline) (inside : Scopes)
    (entry keyProgram valueProgram : Program) : Prop where
  builds : program.entries? = some entry
  pairs : entry.pair? = some (keyProgram, valueProgram)
  filters :
    ∃ filters, Pipeline.filteringOfSteps steps (.single []) = .list filters ∧
      entry.filterTypes = filters.map ElementFilter.typeName
  parameters : inside.map Scope.parameter = [some parameter, none]
  key : Compile.CompilesTo inside key keyProgram
  value : Compile.CompilesTo inside value valueProgram

/-- The program of a chain that is in a list and ends in a dictionary. -/
theorem Filtering.Framed.finish_dictionary {filtering : Filtering}
    {chain : Chain} {own program : Program} {index : Nat}
    (framed : filtering.Framed chain.frames chain.list)
    (listed : chain.list = some index) (single : chain.enforceSingle = false)
    {step : Step}
    (finished :
      (Chain.endedBy { chain with position := .dictionary own } step).finish =
        .ok program) :
    ∃ filters entry, filtering = .list filters ∧ program.entries? = some entry ∧
      entry.pair? = own.pair? ∧
      entry.filterTypes =
        filters.map ElementFilter.typeName ++ own.filterTypes := by
  have unended :
      (Chain.endedBy { chain with position := .dictionary own } step).finish =
        Chain.finish { chain with position := .dictionary own } := by
    unfold Chain.endedBy
    split <;> rfl
  rw [unended] at finished
  simp only [Chain.finish, single] at finished
  generalize chain.frames = frames at framed finished
  generalize chain.list = list at framed listed finished
  cases framed with
  | single => cases listed
  | @list outer inside filters unmapped keeps same =>
      have dropped :
          (outer ++ .mapList (filters.countP ElementFilter.onList) ::
              inside).drop (outer.length + 1) = inside := by
        simp
      simp only [Option.getD_some, List.take_left, dropped, Bool.false_eq_true,
        if_false, Except.ok.injEq] at finished
      subst program
      refine ⟨filters, _, rfl, entries?_fillFrames unmapped _,
        pair?_fillFrames keeps own, ?_⟩
      rw [filterTypes_fillFrames keeps, same]

namespace Compile

variable {document : CompileState} {scopes : Scopes}

/-- Where steps can be followed by another one, the last of them does not end a
pipeline. -/
theorem walksSteps_goesOn {chain last : Chain} {steps : List Step}
    (walks : WalksSteps document scopes steps chain last)
    (goesOn : last.terminal = none) :
    steps.getLast?.any Step.isTerminal = false := by
  induction steps generalizing chain with
  | nil => rfl
  | cons step rest induction =>
      cases walks with
      | cons _ _ others =>
          cases rest with
          | nil =>
              cases others
              exact Chain.isTerminal_of_endedBy goesOn
          | cons other rest => exact induction others

/-- The program of an accepted pipeline that ends in a dictionary builds it. -/
theorem compiled_holdsDictionary {source : Source} {steps : List Step}
    {parameter : Parameter} {key value : Pipeline}
    {compiled : CompiledOperation}
    (success :
      compile (.mk source (steps ++ [.toDictionary parameter key value])) =
        .ok compiled) :
    ∃ inside entry keyProgram valueProgram,
      compiled.program.HoldsDictionary steps parameter key
      value inside entry keyProgram valueProgram := by
  cases source with
  | parameter other =>
      rw [compile_parameter] at success
      cases success
  | root kind =>
      rw [compile_root] at success
      obtain ⟨⟨program, final⟩, compiling, rfl⟩ := Evaluate.map_eq_ok.mp success
      rw [pipeline_root, walk_append _ steps rfl] at compiling
      simp only [bind_eq_ok] at compiling
      obtain ⟨ended, _, ⟨last, middle, walking, ending⟩, finished⟩ := compiling
      obtain ⟨goesOn, next, _, step, nothing⟩ := walk_cons_eq_ok.mp ending
      simp only [walk, pure_eq_ok] at nothing
      obtain ⟨rfl, rfl⟩ := nothing
      obtain ⟨object, keyProgram, valueProgram, keyState, isList, atObject,
        keyed, valued, rfl⟩ := walkStep_toDictionary_eq_ok.mp step
      obtain ⟨index, listed⟩ := Option.isSome_iff_exists.mp isList
      have arrives := walk_root_arrives walking
      have walks := arrives.derives _ (CompileState.Grows.refl _)
      obtain ⟨lays, _⟩ :=
        walksSteps_lay steps arrives.formed walks (start_lays _ _ _)
          (Chain.waits_of_none rfl)
      have unended := walks_unended (.mk (.root kind) steps) arrives.formed
        (.mk rfl walks) (walksSteps_goesOn walks goesOn)
      simp only [finish, liftM_eq_ok] at finished
      obtain ⟨finished, rfl⟩ := finished
      have framed := lays.object atObject
      obtain ⟨filters, entry, filtering, builds, pairs, types⟩ :=
        framed.finish_dictionary listed unended.enforceSingle finished
      have plain : ((Program.keyValue keyProgram valueProgram).bindIfRead
          [rootScope kind].length).filterTypes = [] :=
            filterTypes_bindIfRead _ _
      rw [plain, List.append_nil] at types
      exact ⟨last.scope parameter object :: [rootScope kind], entry, keyProgram,
        valueProgram, builds, pairs.trans (pair?_bindIfRead _ _),
        ⟨filters, filtering, types⟩,
        rfl, ⟨_, _, keyed⟩, ⟨_, _, valued⟩⟩

end Compile

end GraphPipeline
