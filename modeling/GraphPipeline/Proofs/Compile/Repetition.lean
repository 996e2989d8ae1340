import GraphPipeline.Proofs.Compile.CursorVariables
import GraphPipeline.Proofs.Compile.Forms
import GraphPipeline.Proofs.Compile.Seams

/-!
# Walking again

A pipeline that was walked for a document finds everything there when it is
walked again: the fields and fragments it selects, the response keys they have,
and the variables it declares.  So the document stays as it is, and the chain
comes out as before.  Pages are the exception, because the cursor of a
connection is a new variable each time.
-/

namespace GraphPipeline

mutual

/-- Whether a pipeline, or a pipeline in its steps, asks for all pages of a
connection. -/
def Pipeline.asksAllPages : Pipeline → Bool
  | .mk _ steps => Pipeline.asksAllPagesInSteps steps

def Pipeline.asksAllPagesInSteps : List Step → Bool
  | [] => false
  | step :: steps =>
      Pipeline.asksAllPagesInStep step || Pipeline.asksAllPagesInSteps steps

def Pipeline.asksAllPagesInStep : Step → Bool
  | .allPages _ => true
  | .record _ fields => Pipeline.asksAllPagesInFields fields
  | .value _ inner => inner.asksAllPages
  | .toDictionary _ key value => key.asksAllPages || value.asksAllPages
  | .property _ => false
  | .call _ _ => false
  | .cast _ => false
  | .filter _ => false
  | .single => false
  | .singleOrDefault => false
  | .toList => false

def Pipeline.asksAllPagesInFields : List (String × Pipeline) → Bool
  | [] => false
  | (_, pipeline) :: fields =>
      pipeline.asksAllPages || Pipeline.asksAllPagesInFields fields

end

/-- Steps that ask for all pages nowhere do not ask for them first. -/
theorem Pipeline.head?_asksNone {steps : List Step}
    (asksNone : Pipeline.asksAllPagesInSteps steps = false) :
    steps.head?.any Step.isAllPages = false := by
  cases steps with
  | nil => rfl
  | cons step rest =>
      cases step with
      | allPages nodes => cases asksNone
      | _ => rfl

/-! ### Selections that are there -/

namespace Selections

variable {named : String → Prop} {selections : Selections}

theorem modifySet_of_fixed {id : SetId} {change : SetRecord → SetRecord}
    (fixed : change (selections.set id) = selections.set id) :
    selections.modifySet id change = selections := by
  have sameSets : selections.sets.modify id change = selections.sets := by
    apply List.ext_getElem?
    intro index
    rw [List.getElem?_modify]
    by_cases here : id = index
    · subst index
      cases found : selections.sets[id]? with
      | none => rfl
      | some record =>
          rw [set, found] at fixed
          simpa using fixed
    · simp [here]
  rw [modifySet, sameSets]

/-- A field is selected as it was selected before. -/
theorem field_again (formed : WellFormed named selections) {set : SetId}
    {definition : FieldDefinition} {arguments : List Argument}
    {selected : SelectedField}
    (holds : selections.Holds set definition arguments selected) :
    selections.field set definition arguments = .ok (selected, selections) := by
  obtain ⟨record, member, signed, sameType, rfl⟩ := holds
  unfold field
  cases known : (selections.set set).fields.find?
      (·.signature == signature definition.name arguments) with
  | none =>
      have absent := List.find?_eq_none.mp known record member
      simp [signed] at absent
  | some other =>
      have otherSigned := List.find?_some known
      have sameSignature : other.signature = record.signature := by
        rw [signed]
        simpa using otherSigned
      obtain rfl : other = record :=
        List.inj_on_of_nodup_map (formed.distinct set)
          (List.mem_of_find?_eq_some known) member sameSignature
      simp only [known, sameType, if_true]

/-- A fragment is selected as it was selected before. -/
theorem fragment_again {set id : SetId} {typeName : String}
    (found : Entries.lookup? (selections.set set).fragments typeName = some id)
    (required : (selections.set set).requiresTypename = true) :
    selections.fragment set typeName = (id, selections) := by
  have unchanged : selections.modifySet set
      (fun record => { record with requiresTypename := true }) =
        selections := by
    apply modifySet_of_fixed
    rw [← required]
  simp only [fragment, unchanged, found]

end Selections

namespace CompileState

/-- The arguments that calls pass are accepted and declare no new variable, now
and in any later document. -/
def AcceptsCalls (state : CompileState) (calls : List FieldCall) : Prop :=
  ∀ call ∈ calls, call.paginated = false →
    ∀ later : CompileState, state.variableTypes <+: later.variableTypes →
      Compile.passArguments call.field false call.arguments none later =
        .ok ((Argument.written call.arguments, none), later)

theorem AcceptsCalls.grow {before after : CompileState} {calls : List FieldCall}
    (accepts : before.AcceptsCalls calls)
    (longer : before.variableTypes <+: after.variableTypes) :
    after.AcceptsCalls calls :=
  fun call member plain later evenLonger =>
    accepts call member plain later (longer.trans evenLonger)

theorem AcceptsCalls.of_subset {state : CompileState}
    {calls others : List FieldCall}
    (accepts : state.AcceptsCalls others) (subset : calls ⊆ others) :
    state.AcceptsCalls calls :=
  fun call member => accepts call (subset member)

theorem AcceptsCalls.concat {state : CompileState} {calls : List FieldCall}
    {call : FieldCall}
    (accepts : state.AcceptsCalls calls) (last : state.AcceptsCalls [call]) :
    state.AcceptsCalls (calls ++ [call]) :=
  fun other member =>
    (List.mem_append.mp member).elim (accepts other) (last other)

end CompileState

namespace Compile

variable {before after later document : CompileState}

/-! ### Variables that are declared -/

theorem declare_again {name : String} {type : TypeRef} {result : Unit}
    (success : declare name type before = .ok (result, after))
    (longer : after.variableTypes <+: later.variableTypes) :
    declare name type later = .ok ((), later) := by
  have declares :
      ∃ declared, Entries.lookup? after.variableTypes name = some declared ∧
        declared.render = type.render := by
    rcases declare_spec success with ⟨rfl, known⟩ | ⟨_, rfl⟩
    · exact known
    · exact ⟨type, Entries.lookup?_put_same _ _ _, rfl⟩
  obtain ⟨declared, known, text⟩ := declares
  have found := Entries.lookup?_of_prefix longer known
  rw [declare, bind_of_ok (get_eq_ok.mpr ⟨rfl, rfl⟩)]
  simp only [found, text, if_true]
  rfl

theorem declareAll_again {uses : List (String × TypeRef)} {result : Unit}
    (success : declareAll uses before = .ok (result, after))
    (longer : after.variableTypes <+: later.variableTypes) :
    declareAll uses later = .ok ((), later) := by
  induction uses generalizing before with
  | nil => rfl
  | cons use uses induction =>
      obtain ⟨name, type⟩ := use
      simp only [declareAll, bind_eq_ok] at success
      obtain ⟨_, middle, first, rest⟩ := success
      have declared := declare_again first
        ((declareAll_sameDocument rest).2.2.trans longer)
      rw [declareAll, bind_of_ok declared]
      exact induction rest

/-- The arguments of a field are passed as they were passed before. -/
theorem passArguments_again {field : FieldDefinition}
    {arguments written : List Argument} {cursor found : Option String}
    (success : passArguments field false arguments cursor before =
      .ok ((written, found), after))
    (longer : after.variableTypes <+: later.variableTypes) :
    passArguments field false arguments cursor later =
      .ok ((Argument.written arguments, cursor), later) := by
  induction arguments generalizing before written found with
  | nil => rfl
  | cons argument arguments induction =>
      obtain ⟨name, value⟩ := argument
      unfold passArguments at success ⊢
      cases known : field.argument? name with
      | none => simp [known] at success
      | some definition =>
          simp only [known, Bool.false_and, Bool.false_eq_true,
            if_false] at success ⊢
          by_cases omitted : value.isOmitted = true
          · simp only [omitted, if_true] at success ⊢
            rw [induction success]
            simp [Argument.written, omitted]
          · simp only [omitted, Bool.false_eq_true, if_false, bind_eq_ok,
              pure_eq_ok] at success ⊢
            obtain ⟨_, middle, declaring, ⟨others, last⟩, _, rest, same, rfl⟩ :=
              success
            refine ⟨(), later, declareAll_again declaring
              ((passArguments_spec rest).1.2.2.trans longer), _, later,
              induction rest, ?_, rfl⟩
            rw [argument?_name known]
            simp [Argument.written, omitted]

/-- Once a call is made, its arguments can be passed again. -/
theorem acceptsCalls_upkeep :
    CallUpkeep (fun _ _ => True)
      fun done _ state => state.AcceptsCalls done where
  information _ accepts _ _ success :=
    accepts.grow (selectIn_sameVariables success ▸ List.prefix_rfl)
  selected {before middle after done cursors set field arguments written found
    selected}
      _ accepts _ _ passing success := by
    have same := selectIn_sameVariables success
    have passed : after.AcceptsCalls [⟨field, arguments, false⟩] := by
      intro call member _ later longer
      rw [same] at longer
      rw [List.mem_singleton.mp member]
      exact passArguments_again passing longer
    exact (accepts.grow (same ▸ (passArguments_spec passing).1.2.2)).concat
      passed
  paged {before passed middle after done set field arguments written found
    selected result}
      _ accepts _ _ passing declaring success := by
    have same := selectIn_sameVariables success
    have longer :=
      (passArguments_spec passing).1.2.2.trans
        (declare_sameDocument declaring).2.2
    have paginated : after.AcceptsCalls [⟨field, arguments, true⟩] := by
      intro call member plain
      rw [List.mem_singleton.mp member] at plain
      cases plain
    exact (accepts.grow (same ▸ longer)).concat paginated
  narrowed _ accepts _ success :=
    accepts.grow (fragmentIn_sameVariables success ▸ List.prefix_rfl)
  pushed _ accepts _ success :=
    accepts.grow (pushSubquery_sameVariables success ▸ List.prefix_rfl)

/-! ### Steps that are walked again -/

variable {named : String → Prop} {chain next : Chain}

theorem selectIn_again (formed : document.WellFormed named) {set : SetId}
    {definition : FieldDefinition} {arguments : List Argument}
    {selected : SelectedField}
    (holds : document.selections.Holds set definition arguments selected) :
    selectIn set definition arguments document = .ok (selected, document) := by
  simp only [selectIn, bind_eq_ok, get_eq_ok]
  refine ⟨document, document, ⟨rfl, rfl⟩, ?_⟩
  rw [Selections.field_again formed.selections holds]
  rfl

theorem selectField_again (formed : document.WellFormed named)
    {field : FieldDefinition} {arguments : List Argument}
    (accepts : document.AcceptsCalls [⟨field, arguments, false⟩])
    (selects : SelectsField document chain field arguments false next) :
    selectField chain field arguments false document =
      .ok (next, document) := by
  cases selects with
  | @plain object selected _ atObject noList holds advanced =>
      have selectable :
          selectableObject chain field.name document =
            .ok (object, document) := by
        simp only [selectableObject, atObject, noList, pure_eq_ok, and_self]
      have passing := accepts _ List.mem_cons_self rfl document List.prefix_rfl
      rw [selectField, bind_of_ok selectable, bind_of_ok passing]
      simp only [Bool.false_eq_true, if_false, bind_eq_ok, liftM_eq_ok]
      exact ⟨selected, document, selectIn_again formed holds, advanced, rfl⟩

theorem narrow_again (chain : Chain) (mode : NarrowingMode)
    {object : ObjectPosition} {typeName : String} {set : SetId}
    (found :
      Entries.lookup? (document.selections.set object.set).fragments typeName =
        some set)
    (required : (document.selections.set object.set).requiresTypename = true) :
    narrow (chain.counted mode) object typeName mode document =
      .ok (chain.narrowedTo object typeName mode set, document) := by
  have again := Selections.fragment_again found required
  simp only [narrow, fragmentIn, bind_eq_ok, get_eq_ok, set_eq_ok, pure_eq_ok]
  refine ⟨set, document,
    ⟨document, document, ⟨rfl, rfl⟩, ⟨⟩, document, ?_, ?_, rfl⟩, rfl, rfl⟩
  · rw [again]
  · rw [again]

theorem narrowableObject_again {object : ObjectPosition} (reducer : String)
    (atObject : chain.position = .object object)
    (polymorphic : object.type.kind.isPolymorphic = true) :
    narrowableObject chain reducer document = .ok (object, document) := by
  simp only [narrowableObject, atObject, polymorphic, if_true, pure_eq_ok,
    and_self]

theorem castTo_again {typeName : String}
    (narrows : Narrows document chain typeName .cast next) :
    castTo chain typeName document = .ok (next, document) := by
  cases narrows with
  | mk atObject polymorphic absentOk found required =>
      rw [castTo,
        bind_of_ok (narrowableObject_again "cast" atObject polymorphic)]
      exact narrow_again chain .cast found required

theorem filterTo_again {typeName : String}
    (narrows : Narrows document chain typeName .filter next) :
    filterTo chain typeName document = .ok (next, document) := by
  cases narrows with
  | mk atObject polymorphic absentOk found required =>
      have again := narrow_again chain .filter found required
      rw [filterTo,
        bind_of_ok (narrowableObject_again "filter" atObject polymorphic)]
      cases list : chain.list with
      | some index => simpa only [Chain.counted, list] using again
      | none =>
        simpa only [Chain.counted, list, absentOk rfl list, if_true] using again

theorem projectedObject_again (state : CompileState) {object : ObjectPosition}
    (atObject : chain.position = .object object) :
    projectedObject chain state = .ok (object, state) := by
  simp only [projectedObject, atObject, pure_eq_ok, and_self]

theorem endSingle_again (reducer : String) (enforceSingle : Bool)
    (noList : chain.isList = false)
    (ended : ∀ object, chain.position ≠ .object object) :
    endSingle chain reducer enforceSingle document =
      .ok ({ chain with enforceSingle }, document) := by
  simp only [endSingle, noList, Bool.false_eq_true, if_false]
  cases position : chain.position with
  | object object => exact absurd position (ended object)
  | value program isList => rfl
  | dictionary entry => rfl

theorem rejoin_again {outer inner : Chain} {depth : Nat}
    (oneList : outer.list = none ∨ inner.list = none) :
    rejoin outer (inner.under (outer.frames ++ [.bind depth])) document =
      .ok (outer.continued depth inner, document) := by
  cases outerList : outer.list with
  | none =>
    simp only [rejoin, outerList, Chain.continued, Option.none_or, pure_eq_ok,
      and_self]
  | some index =>
      have innerList : inner.list = none := by
        rcases oneList with noOuter | noInner
        · rw [outerList] at noOuter
          cases noOuter
        · exact noInner
      simp only [rejoin, outerList, Chain.continued, Chain.under, innerList,
        Option.map_none, Option.some_or, pure_eq_ok, and_self]

/-- A pipeline that has a program does not end at an object. -/
theorem position_of_finish {program : Program}
    (finished : chain.finish = .ok program) (object : ObjectPosition) :
    chain.position ≠ .object object := by
  intro atObject
  simp [Chain.finish, atObject] at finished

mutual

/-- A pipeline that was walked for a document leaves it as it is when it is
walked again, and arrives at the same chain. -/
theorem walkPipeline_again {scopes : Scopes} {chain : Chain}
    (pipeline : Pipeline) (formed : document.WellFormed named)
    (asksNone : pipeline.asksAllPages = false)
    (accepts : document.AcceptsCalls pipeline.calls)
    (ended :
      pipeline.endsTerminal = true → ∀ object, chain.position ≠ .object object)
    (walks : Walks document scopes pipeline chain) :
    walkPipeline scopes [] pipeline document = .ok (chain, document) := by
  cases pipeline with
  | mk source steps =>
      cases walks with
      | mk resolved walks =>
          simp only [walkPipeline, resolved]
          exact walk_again steps formed asksNone accepts ended walks
termination_by structural pipeline

theorem walk_again {scopes : Scopes} {chain last : Chain} (steps : List Step)
    (formed : document.WellFormed named)
    (asksNone : Pipeline.asksAllPagesInSteps steps = false)
    (accepts : document.AcceptsCalls (Pipeline.callsOfSteps steps))
    (ended : steps.getLast?.any Step.isTerminal = true →
      ∀ object, last.position ≠ .object object)
    (walks : WalksSteps document scopes steps chain last) :
    walk scopes steps chain document = .ok (last, document) := by
  cases steps with
  | nil =>
      cases walks
      rfl
  | cons step rest =>
      cases walks with
      | @cons _ _ _ _ next _ goesOn first others =>
          simp only [Pipeline.asksAllPagesInSteps,
            Bool.or_eq_false_iff] at asksNone
          rw [Pipeline.head?_asksNone asksNone.2] at first
          rw [Pipeline.callsOfSteps,
            Pipeline.head?_asksNone asksNone.2] at accepts
          -- Nothing follows a terminal step, so such a step is the last one.
          have endedFirst : step.isTerminal = true →
              ∀ object, next.position ≠ .object object := by
            intro terminal
            cases others with
            | nil =>
                intro object atObject
                exact ended terminal object
                  ((position_endedBy next step).trans atObject)
            | cons goesOn _ _ =>
                rw [Chain.isTerminal_of_endedBy goesOn] at terminal
                cases terminal
          have endedRest : rest.getLast?.any Step.isTerminal = true →
              ∀ object, last.position ≠ .object object := by
            intro terminal
            cases rest with
            | nil => cases terminal
            | cons second rest => exact ended terminal
          have stepped := walkStep_again step formed asksNone.1
            (accepts.of_subset (List.subset_append_left _ _)) endedFirst first
          rw [walk_cons _ _ _ goesOn, Pipeline.head?_asksNone asksNone.2,
            bind_of_ok stepped]
          exact walk_again rest formed asksNone.2
            (accepts.of_subset (List.subset_append_right _ _)) endedRest others
termination_by structural steps

theorem walkStep_again {scopes : Scopes} {chain next : Chain} (step : Step)
    (formed : document.WellFormed named)
    (asksNone : Pipeline.asksAllPagesInStep step = false)
    (accepts : document.AcceptsCalls (Pipeline.callsOfStep false step))
    (ended : step.isTerminal = true → ∀ object, next.position ≠ .object object)
    (walks : WalksStep document scopes step false chain next) :
    walkStep scopes step false chain document = .ok (next, document) := by
  cases step with
  | property field =>
      cases walks with
      | property selects => exact selectField_again formed accepts selects
  | call field arguments =>
      cases walks with
      | call selects => exact selectField_again formed accepts selects
  | allPages nodes => cases asksNone
  | cast typeName =>
      cases walks with
      | cast narrows => exact castTo_again narrows
  | filter typeName =>
      cases walks with
      | filter narrows => exact filterTo_again narrows
  | single =>
      cases walks with
      | single noList => exact endSingle_again "single" true noList (ended rfl)
  | singleOrDefault =>
      cases walks with
      | singleOrDefault noList =>
          exact endSingle_again "single_or_default" false noList (ended rfl)
  | toList =>
      cases walks with
      | toList isList =>
        simp only [walkStep, endList, isList, if_true, pure_eq_ok, and_self]
  | record parameter fields =>
      cases walks with
      | @record _ _ _ _ _ object programs atObject walks =>
          have compiled :=
            compileFields_again fields formed asksNone accepts walks
          rw [walkStep, bind_of_ok (projectedObject_again document atObject),
            bind_of_ok compiled]
          rfl
  | value parameter inner =>
      cases walks with
      | @valueEnded _ _ _ _ _ last object program atObject terminal walks
          finished =>
          have walked := walkPipeline_again inner formed asksNone accepts
            (fun _ => position_of_finish finished) walks
          rw [walkStep, bind_of_ok (projectedObject_again document atObject),
            if_pos terminal, bind_assoc, bind_of_ok walked, finish, finished]
          rfl
      | @valueContinued _ _ _ _ _ last object atObject goesOn walks oneList =>
          have walked := walkPipeline_again inner formed asksNone accepts
            (fun terminal => by rw [goesOn] at terminal; cases terminal) walks
          have around :=
            walkPipeline_under (chain.scope parameter object :: scopes)
              (chain.frames ++ [.bind scopes.length]) [] inner
          rw [List.append_nil] at around
          rw [walkStep, bind_of_ok (projectedObject_again document atObject),
            if_neg (by simp [goesOn]), around, bind_map_left, bind_of_ok walked]
          exact rejoin_again oneList
  | toDictionary parameter key value =>
      cases walks with
      | @toDictionary _ _ _ _ _ _ keyChain valueChain index object keyProgram
          valueProgram list atObject walksKey finishedKey walksValue
          finishedValue =>
          simp only [Pipeline.asksAllPagesInStep,
            Bool.or_eq_false_iff] at asksNone
          rw [Pipeline.callsOfStep] at accepts
          have projected :
              dictionaryObject chain document = .ok (object, document) := by
            simp only [dictionaryObject, list, atObject, pure_eq_ok, and_self]
          have walkedKey := walkPipeline_again key formed asksNone.1
            (accepts.of_subset (List.subset_append_left _ _))
            (fun _ => position_of_finish finishedKey) walksKey
          have walkedValue := walkPipeline_again value formed asksNone.2
            (accepts.of_subset (List.subset_append_right _ _))
            (fun _ => position_of_finish finishedValue) walksValue
          simp only [walkStep, bind_eq_ok, pure_eq_ok, finish, liftM_eq_ok]
          exact ⟨object, document, projected, keyProgram, document,
            ⟨keyChain, document, walkedKey, finishedKey, rfl⟩, valueProgram,
            document,
            ⟨valueChain, document, walkedValue, finishedValue, rfl⟩, rfl, rfl⟩
termination_by structural step

theorem compileFields_again {scopes : Scopes}
    {programs : List (String × Program)}
    (fields : List (String × Pipeline)) (formed : document.WellFormed named)
    (asksNone : Pipeline.asksAllPagesInFields fields = false)
    (accepts : document.AcceptsCalls (Pipeline.callsOfRecord fields))
    (walks : WalksFields document scopes fields programs) :
    compileFields scopes fields document = .ok (programs, document) := by
  cases fields with
  | nil =>
      cases walks
      rfl
  | cons field fields =>
      obtain ⟨key, pipeline⟩ := field
      cases walks with
      | @cons _ _ _ _ chain program programs walks finished others =>
          simp only [Pipeline.asksAllPagesInFields,
            Bool.or_eq_false_iff] at asksNone
          rw [Pipeline.callsOfRecord] at accepts
          have walked := walkPipeline_again pipeline formed asksNone.1
            (accepts.of_subset (List.subset_append_left _ _))
            (fun _ => position_of_finish finished) walks
          have compiled := compileFields_again fields formed asksNone.2
            (accepts.of_subset (List.subset_append_right _ _)) others
          simp only [compileFields, bind_eq_ok, pure_eq_ok, finish, liftM_eq_ok]
          exact ⟨program, document, ⟨chain, document, walked, finished, rfl⟩,
            programs, document, compiled, rfl, rfl⟩
termination_by structural fields

end

end Compile

end GraphPipeline
