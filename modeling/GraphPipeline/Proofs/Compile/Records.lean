import GraphPipeline.Proofs.Compile.Sinks
import GraphPipeline.Proofs.Evaluation.Standing

/-!
# Records in compiled programs

A record stands somewhere among the steps of a pipeline, inside of some
projections.  When the pipeline is compiled, the record becomes a part of the
program: a node that builds it from the programs of its fields, each of which is
compiled where the parameters of these projections are in scope.
-/

namespace GraphPipeline

/-- Evaluates a pipeline on the elements that a step gives the name of a
parameter. -/
inductive Step.Projects : Step → Parameter → Pipeline → Prop where
  | record {parameter : Parameter} {fields : List (String × Pipeline)}
      {field : String × Pipeline} :
      field ∈ fields → Projects (.record parameter fields) parameter field.2
  | value {parameter : Parameter} {inner : Pipeline} :
      Projects (.value parameter inner) parameter inner
  | dictionaryKey {parameter : Parameter} {key value : Pipeline} :
      Projects (.toDictionary parameter key value) parameter key
  | dictionaryValue {parameter : Parameter} {key value : Pipeline} :
      Projects (.toDictionary parameter key value) parameter value

/-- A record stands among the steps of a pipeline, inside of projections whose
parameters are given from inside to outside. -/
inductive Pipeline.HasRecord (parameter : Parameter)
    (fields : List (String × Pipeline)) :
    List Parameter → Pipeline → Prop where
  | here {source : Source} {steps : List Step} :
      Step.record parameter fields ∈ steps →
        HasRecord parameter fields [] (.mk source steps)
  | inside {source : Source} {steps : List Step} {step : Step}
      {outer : Parameter} {inner : Pipeline} {enclosing : List Parameter} :
      step ∈ steps → step.Projects outer inner →
      HasRecord parameter fields enclosing inner →
      HasRecord parameter fields (enclosing ++ [outer]) (.mk source steps)

/-- The program that steps have ended with. -/
def Position.program? : Position → Option Program
  | .object _ => none
  | .value program _ => some program
  | .dictionary entry => some entry

namespace Program

variable {whole part other : Program}

theorem PartOf.trans (first : whole.PartOf part) (second : part.PartOf other) :
    whole.PartOf other := by
  induction second with
  | self => exact first
  | field _ induction => exact .field induction
  | optional _ induction => exact .optional induction
  | mapList _ induction => exact .mapList induction
  | narrow _ induction => exact .narrow induction
  | buildRecord _ member induction => exact .buildRecord induction member
  | enforceSingle _ induction => exact .enforceSingle induction
  | toDictionary _ induction => exact .toDictionary induction
  | key _ induction => exact .key induction
  | value _ induction => exact .value induction
  | subquerySink _ induction => exact .subquerySink induction
  | bind _ induction => exact .bind induction
  | parameter _ induction => exact .parameter induction

theorem bindIfRead_partOf (depth : Nat) (program : Program) :
    (program.bindIfRead depth).PartOf program := by
  unfold bindIfRead
  split
  · exact .bind .self
  · exact .self

theorem fill_partOf (frame : Frame) (program : Program) :
    (frame.fill program).PartOf program := by
  cases frame with
  | field key => exact .field .self
  | optional => exact .optional .self
  | mapList filters => exact .mapList .self
  | narrow typeName mode => exact .narrow .self
  | bind depth => exact bindIfRead_partOf depth program
  | parameter depth => exact .parameter .self
  | subquerySink id keys => exact .subquerySink .self

theorem fillFrames_partOf (frames : List Frame) (program : Program) :
    (fillFrames frames program).PartOf program := by
  induction frames with
  | nil => exact .self
  | cons frame frames induction => exact (fill_partOf frame _).trans induction

end Program

/-- The program a chain ends with is a part of the whole program. -/
theorem Chain.finish_partOf {chain : Chain} {program whole : Program}
    (ended : chain.position.program? = some program)
    (finished : chain.finish = .ok whole) :
    whole.PartOf program := by
  unfold Chain.finish at finished
  cases position : chain.position with
  | object object =>
      rw [position] at ended
      cases ended
  | value program isList =>
      rw [position] at ended
      obtain rfl := Option.some.inj ended
      simp only [position, Except.ok.injEq] at finished
      subst whole
      split
      · exact (Program.PartOf.enforceSingle .self).trans
          (Program.fillFrames_partOf _ _)
      · exact Program.fillFrames_partOf _ _
  | dictionary entry =>
      rw [position] at ended
      obtain rfl := Option.some.inj ended
      simp only [position, Except.ok.injEq] at finished
      subst whole
      have inside :=
        Program.fillFrames_partOf (chain.frames.drop (chain.list.getD 0 + 1))
          entry
      have dictionary := (Program.PartOf.toDictionary
        (Program.fillFrames_partOf (chain.frames.take (chain.list.getD 0))
          _)).trans inside
      split
      · exact (Program.PartOf.enforceSingle .self).trans dictionary
      · exact dictionary

namespace Compile

variable {scopes : Scopes} {chain next last : Chain}
  {before after : CompileState} {program : Program}

/-- A pipeline is compiled to a program, from some document on. -/
def CompilesTo (scopes : Scopes) (pipeline : Pipeline) (program : Program) :
    Prop :=
  ∃ before after, Compile.pipeline scopes pipeline before = .ok (program, after)

/-! ### What follows an end -/

/-- Where steps have ended with a program, no other step goes on. -/
theorem walkStep_position {step : Step} {paginate : Bool}
    (ended : chain.position.program? = some program)
    (success : walkStep scopes step paginate chain before = .ok (next, after)) :
    next.position = chain.position := by
  have noObject : ∀ object, chain.position ≠ .object object := by
    intro object atObject
    rw [atObject] at ended
    cases ended
  have noField :
      ∀ {field arguments}, selectField chain field arguments paginate before ≠
        .ok (next, after) := by
    intro field arguments success
    simp only [selectField, bind_eq_ok] at success
    obtain ⟨object, _, selectable, _⟩ := success
    rw [← Chain.under_nil chain] at selectable
    exact noObject object (selectableObject_spec selectable).1
  rw [← Chain.under_nil chain] at success
  cases step with
  | property field =>
      rw [Chain.under_nil] at success
      exact absurd success noField
  | call field arguments =>
      rw [Chain.under_nil] at success
      exact absurd success noField
  | allPages nodes =>
      rw [Chain.under_nil] at success
      simp only [walkStep, selectAllPages] at success
      cases position : chain.position with
      | object object => exact absurd position (noObject object)
      | value program isList =>
          cases page : chain.pendingPage <;> simp [position, page] at success
      | dictionary entry =>
          cases page : chain.pendingPage <;> simp [position, page] at success
  | record parameter fields =>
      obtain ⟨object, _, atObject, _⟩ := walkStep_record_eq_ok.mp success
      exact absurd atObject (noObject object)
  | value parameter inner =>
      simp only [walkStep, bind_eq_ok] at success
      obtain ⟨object, _, projecting, _⟩ := success
      exact absurd (projectedObject_eq_ok.mp projecting).1 (noObject object)
  | cast typeName =>
      obtain ⟨object, atObject, _⟩ := castTo_narrows success
      exact absurd atObject (noObject object)
  | filter typeName =>
      obtain ⟨object, atObject, _⟩ := filterTo_narrows success
      exact absurd atObject (noObject object)
  | single =>
      obtain ⟨_, rfl, _⟩ := endSingle_spec success
      rfl
  | singleOrDefault =>
      obtain ⟨_, rfl, _⟩ := endSingle_spec success
      rfl
  | toList =>
      obtain ⟨_, rfl, _⟩ := endList_spec success
      rfl
  | toDictionary parameter key value =>
      obtain ⟨object, _, _, _, _, atObject, _⟩ :=
        walkStep_toDictionary_eq_ok.mp success
      exact absurd atObject (noObject object)

theorem walk_position {steps : List Step}
    (ended : chain.position.program? = some program)
    (success : walk scopes steps chain before = .ok (last, after)) :
    last.position = chain.position := by
  induction steps generalizing chain before with
  | nil =>
      simp only [walk, pure_eq_ok] at success
      rw [← success.1]
  | cons step rest induction =>
      obtain ⟨_, next, middle, first, others⟩ := walk_cons_eq_ok.mp success
      have same := walkStep_position ended first
      rw [← same, ← position_endedBy next step] at ended ⊢
      exact induction ended others

/-- A step that ends in a program decides the program of all the steps. -/
theorem walk_ends {steps : List Step} {step : Step} {holds : Program → Prop}
    (member : step ∈ steps)
    (ends : ∀ {paginate chain next before after},
      walkStep scopes step paginate chain before = .ok (next, after) →
        ∃ program, next.position.program? = some program ∧ holds program)
    (success : walk scopes steps chain before = .ok (last, after)) :
    ∃ program, last.position.program? = some program ∧ holds program := by
  induction steps generalizing chain before with
  | nil => cases member
  | cons head rest induction =>
      obtain ⟨_, next, middle, first, others⟩ := walk_cons_eq_ok.mp success
      rcases List.mem_cons.mp member with rfl | later
      · obtain ⟨program, ended, held⟩ := ends first
        rw [← position_endedBy next step] at ended
        exact ⟨program, by rw [walk_position ended others, ended], held⟩
      · exact induction later others

theorem rejoin_position {outer inner : Chain}
    (success : rejoin outer inner before = .ok (last, after)) :
    last.position = inner.position := by
  unfold rejoin at success
  cases outerList : outer.list with
  | none =>
      simp only [outerList, pure_eq_ok] at success
      rw [← success.1]
  | some index =>
      cases innerList : inner.list with
      | none =>
          simp only [outerList, innerList, pure_eq_ok] at success
          rw [← success.1]
      | some other => simp [outerList, innerList] at success

/-! ### Records -/

/-- The programs of the fields of a record. -/
theorem compileFields_compiles {fields : List (String × Pipeline)}
    {programs : List (String × Program)}
    (success : compileFields scopes fields before = .ok (programs, after)) :
    List.Forall₂ (fun field program => program.1 = field.1 ∧
      CompilesTo scopes field.2 program.2) fields programs := by
  induction fields generalizing before after programs with
  | nil =>
      simp only [compileFields, pure_eq_ok] at success
      rw [← success.1]
      exact .nil
  | cons field fields induction =>
      obtain ⟨key, pipeline⟩ := field
      obtain ⟨program, others, middle, first, rest, rfl⟩ :=
        compileFields_cons_eq_ok.mp success
      exact .cons ⟨rfl, before, middle, first⟩ (induction rest)

theorem exists_compilesTo {fields : List (String × Pipeline)}
    {programs : List (String × Program)}
    (compiled : List.Forall₂ (fun field program => program.1 = field.1 ∧
      CompilesTo scopes field.2 program.2) fields programs)
    {field : String × Pipeline} (member : field ∈ fields) :
    ∃ program ∈ programs, CompilesTo scopes field.2 program.2 := by
  obtain ⟨sameLength, each⟩ := List.forall₂_iff_get.mp compiled
  obtain ⟨index, below, rfl⟩ := List.mem_iff_getElem.mp member
  have belowToo : index < programs.length := sameLength ▸ below
  exact ⟨programs[index], List.getElem_mem belowToo,
    (each index below belowToo).2⟩

/-- Where a step projects elements, the program of the inner pipeline becomes a
part of the program the step ends with, or the step ends where the inner
pipeline does. -/
theorem walkStep_projects {step : Step} {paginate : Bool} {outer : Parameter}
    {inner : Pipeline} (projects : step.Projects outer inner)
    (success : walkStep scopes step paginate chain before = .ok (next, after)) :
    ∃ object : ObjectPosition,
      (∃ program part,
        next.position.program? = some program ∧ program.PartOf part ∧
        CompilesTo (chain.scope outer object :: scopes) inner part) ∨
      ∃ frames start finish last,
        walkPipeline (chain.scope outer object :: scopes) frames inner start =
          .ok (last, finish) ∧ next.position = last.position := by
  cases projects with
  | @record outer fields field chosen =>
      obtain ⟨object, programs, _, compiling, rfl⟩ :=
        walkStep_record_eq_ok.mp success
      obtain ⟨program, member, compiles⟩ :=
        exists_compilesTo (compileFields_compiles compiling) chosen
      exact ⟨object, Or.inl ⟨_, program.2, rfl,
          (Program.bindIfRead_partOf _ _).trans (.buildRecord .self member),
          compiles⟩⟩
  | value =>
      cases terminal : inner.endsTerminal with
      | true =>
          obtain ⟨object, program, _, compiling, rfl⟩ :=
            (walkStep_valueEnded_eq_ok terminal).mp success
          exact ⟨object, Or.inl ⟨_, program, rfl, Program.bindIfRead_partOf _ _,
            before, after, compiling⟩⟩
      | false =>
          obtain ⟨object, last, _, _, walking, rejoining⟩ :=
            (walkStep_valueContinued_eq_ok terminal).mp success
          exact ⟨object,
            Or.inr ⟨_, _, _, last, walking, rejoin_position rejoining⟩⟩
  | dictionaryKey =>
      obtain ⟨object, program, _, middle, _, _, keyed, _, rfl⟩ :=
        walkStep_toDictionary_eq_ok.mp success
      exact ⟨object, Or.inl ⟨_, program, rfl,
        (Program.bindIfRead_partOf _ _).trans (.key .self), before, middle,
        keyed⟩⟩
  | dictionaryValue =>
      obtain ⟨object, _, program, middle, _, _, _, valued, rfl⟩ :=
        walkStep_toDictionary_eq_ok.mp success
      exact ⟨object, Or.inl ⟨_, program, rfl,
        (Program.bindIfRead_partOf _ _).trans (.value .self), middle, after,
        valued⟩⟩

/-- The node of a record is a part of a program.  The programs of its fields are
compiled where the parameter of the record and those around it are in scope. -/
structure HoldsRecord (scopes : Scopes) (parameter : Parameter)
    (fields : List (String × Pipeline)) (enclosing : List Parameter)
    (inside : Scopes) (programs : List (String × Program)) (whole : Program) :
    Prop where
  parameters : inside.map Scope.parameter =
    some parameter :: (enclosing.map some ++ scopes.map Scope.parameter)
  compiled : List.Forall₂ (fun field program => program.1 = field.1 ∧
    CompilesTo inside field.2 program.2) fields programs
  part : whole.PartOf
    ((Program.buildRecord programs).bindIfRead
      (enclosing.length + scopes.length))

variable {parameter : Parameter} {fields : List (String × Pipeline)}
  {enclosing : List Parameter}

/-- A larger program holds the record too. -/
theorem HoldsRecord.mono {inside : Scopes} {programs : List (String × Program)}
    {whole part : Program}
    (holds : HoldsRecord scopes parameter fields enclosing inside programs part)
    (larger : whole.PartOf part) :
    HoldsRecord scopes parameter fields enclosing inside programs whole :=
  ⟨holds.parameters, holds.compiled, larger.trans holds.part⟩

/-- One projection further outside. -/
theorem HoldsRecord.outward {scope : Scope} {inside : Scopes}
    {programs : List (String × Program)} {whole : Program} {outer : Parameter}
    (named : scope.parameter = some outer)
    (holds :
      HoldsRecord (scope :: scopes) parameter fields enclosing inside programs
        whole) :
    HoldsRecord scopes parameter fields (enclosing ++ [outer]) inside programs
      whole := by
  refine ⟨?_, holds.compiled, ?_⟩
  · rw [holds.parameters]
    simp [named]
  · have deeper : (enclosing ++ [outer]).length + scopes.length =
        enclosing.length + (scopes.length + 1) := by
      rw [List.length_append, List.length_singleton]
      omega
    rw [deeper]
    exact holds.part

/-- The program of a pipeline in which a record stands holds the record. -/
theorem walkPipeline_holdsRecord {pipeline : Pipeline} {frames : List Frame}
    (has : pipeline.HasRecord parameter fields enclosing)
    (success : walkPipeline scopes frames pipeline before = .ok (last, after)) :
    ∃ program, last.position.program? = some program ∧ ∃ inside programs,
      HoldsRecord scopes parameter fields enclosing inside programs
        program := by
  induction has generalizing scopes frames before after last with
  | @here source steps member =>
      obtain ⟨_, _, _, walking⟩ := walkPipeline_eq_ok.mp success
      refine walk_ends member
        (fun {paginate chain next before after} step => ?_) walking
      obtain ⟨object, programs, _, compiling, rfl⟩ :=
        walkStep_record_eq_ok.mp step
      refine ⟨_, rfl, chain.scope parameter object :: scopes, programs, rfl,
        compileFields_compiles compiling, ?_⟩
      rw [List.length_nil, Nat.zero_add]
      exact .self
  | @inside source steps step outer inner enclosing member projects _
      induction =>
      obtain ⟨_, _, _, walking⟩ := walkPipeline_eq_ok.mp success
      refine walk_ends member
        (fun {paginate chain next before after} step => ?_) walking
      obtain ⟨object, ⟨program, part, ended, larger, _, _, compiling⟩ |
        ⟨_, _, _, innerLast, walking, same⟩⟩ := walkStep_projects projects step
      · obtain ⟨innerLast, walking, finished⟩ := pipeline_eq_ok.mp compiling
        obtain ⟨own, endedInside, inside, programs, holds⟩ := induction walking
        have partHolds := holds.mono (Chain.finish_partOf endedInside finished)
        exact ⟨program, ended, inside, programs,
          (partHolds.mono larger).outward rfl⟩
      · obtain ⟨own, ended, inside, programs, holds⟩ := induction walking
        exact ⟨own, by rw [same, ended], inside, programs, holds.outward rfl⟩

/-- The compiled program holds every record of the pipeline. -/
theorem compiled_holdsRecord {pipeline : Pipeline}
    {compiled : CompiledOperation}
    (success : compile pipeline = .ok compiled)
    (has : pipeline.HasRecord parameter fields enclosing) :
    ∃ inside programs,
      HoldsRecord [rootScope compiled.operation.kind] parameter fields
      enclosing inside programs compiled.program := by
  obtain ⟨kind, program, document, _, compiling, rfl, _⟩ :=
    compile_eq_ok success
  simp only [Compile.pipeline, bind_eq_ok, Compile.finish,
    liftM_eq_ok] at compiling
  obtain ⟨last, _, walking, finished, rfl⟩ := compiling
  obtain ⟨own, ended, inside, programs, holds⟩ :=
    walkPipeline_holdsRecord has walking
  exact ⟨inside, programs, holds.mono (Chain.finish_partOf ended finished)⟩

end Compile

end GraphPipeline
