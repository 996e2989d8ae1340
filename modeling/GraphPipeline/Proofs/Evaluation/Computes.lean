import GraphPipeline.Proofs.Evaluation.LockstepParts
import GraphPipeline.Proofs.Evaluation.Runs
import GraphPipeline.Proofs.Fitting

/-!
# What programs compute

`Program.Computes` says what a program makes of a value, whatever else the state
of the evaluation holds: its one outcome on every state in which what it reads
is bound as given.  There is a rule for each kind of program, up to paginated
connections and filters, whose outcome depends on more.
-/

namespace GraphPipeline

/-- The dictionary with an entry more, which is a pair of a key and a value, or
null for none. -/
def Json.enter (dictionary : Entries Json) : Json → Option (Entries Json)
  | .null => some dictionary
  | .array [key, value] =>
      key.keyText?.bind fun key =>
        if Entries.contains dictionary key then none
        else some (Entries.put dictionary key value)
  | _ => none

namespace Evaluate

variable {α β : Type}

/-- The value an action gives from a state, if it does not fail. -/
def outcome (action : Evaluate α) (state : EvaluationState) : Option α :=
  (action.result state).1.toOption

theorem outcome_bind (action : Evaluate α) (next : α → Evaluate β)
    (state : EvaluationState) :
    (action >>= next).outcome state =
      (action.outcome state).bind
        fun value => (next value).outcome (action.result state).2 := by
  unfold outcome
  rw [result_bind]
  cases action.result state with
  | mk result later => cases result <;> rfl

/-- After an action that spares the state, the next one finds the same
bindings. -/
theorem Calm.outcome_bind {action : Evaluate α} (calm : Calm action)
    {next : α → Evaluate β} {state : EvaluationState} (second : α → Option β)
    (after :
      ∀ value later,
        Spared state later → (next value).outcome later = second value) :
    (action >>= next).outcome state = (action.outcome state).bind second := by
  rw [Evaluate.outcome_bind]
  unfold outcome
  cases result : action.result state with
  | mk found later =>
      cases found with
      | error error => rfl
      | ok value => exact after value later (calm.spares result)

/-- An action whose value is all that the next one looks at. -/
theorem outcome_bind_pure {action : Evaluate α} {state : EvaluationState}
    {make : α → β} :
    (action >>= fun value => pure (make value)).outcome state =
      (action.outcome state).map make := by
  rw [outcome_bind]
  cases action.outcome state <;> rfl

theorem outcome_memberOf_bind {value member : Json} {key : String}
    (found : value.member? key = some member) (next : Json → Evaluate β)
    (state : EvaluationState) :
    (memberOf value key >>= next).outcome state =
      (next member).outcome state := by
  rw [memberOf_eq_pure found, pure_bind]

@[simp] theorem outcome_itemsOf_bind (items : List Json)
    (next : List Json → Evaluate β) (state : EvaluationState) :
    (itemsOf (.array items) >>= next).outcome state =
      (next items).outcome state :=
  rfl

theorem outcome_checkLeaf {name : String} {kind : TypeKind}
    {wrapping : Wrapping} {value : Json}
    (admits : wrapping.Admits (fun leaf => kind.accepts leaf = true) value)
    (state : EvaluationState) :
    (checkLeaf name kind value wrapping).outcome state = some () := by
  have settles :
      Settles state.binding? (fun _ => True) (fun _ => False) (fun _ => True)
        (checkLeaf name kind value wrapping) := checkLeaf_settles admits
  unfold outcome
  cases result : ((checkLeaf name kind value wrapping).result state).1 with
  | ok done => rfl
  | error error => exact (settles.error rfl result).elim

theorem outcome_required (action : Evaluate Json) (state : EvaluationState) :
    (required action).outcome state =
      (action.outcome { state with absentAt := none }).filter
        fun result => !result.isNull := by
  have checked : (required action).outcome state =
      (action.outcome { state with absentAt := none }).bind fun result =>
        if result.isNull then none else some result := by
    unfold required
    rw [outcome_bind]
    change (action >>= _).outcome { state with absentAt := none } = _
    rw [outcome_bind]
    congr 1
    funext result
    cases result.isNull <;> rfl
  rw [checked]
  cases action.outcome { state with absentAt := none } with
  | none => rfl
  | some result =>
    cases absence : result.isNull <;> simp [Option.filter, absence]

theorem outcome_insertEntry (dictionary : Entries Json) (entry : Json)
    (state : EvaluationState) :
    (insertEntry dictionary entry).outcome state =
      Json.enter dictionary entry := by
  have keyed :
      ∀ key value,
        (insertEntry dictionary (.array [key, value])).outcome state =
        Json.enter dictionary (.array [key, value]) := by
    intro key value
    have known : (dictionaryKey key).outcome state = key.keyText? := by
      cases key <;> rfl
    unfold insertEntry Json.enter
    rw [outcome_bind, known]
    congr 1
    funext text
    split <;> rfl
  match entry with
  | .null => rfl
  | .bool _ => rfl
  | .number _ => rfl
  | .string _ => rfl
  | .object _ => rfl
  | .array [] => rfl
  | .array [_] => rfl
  | .array [key, value] => exact keyed key value
  | .array (_ :: _ :: _ :: _) => rfl

section items

variable (holds : (Nat → Option Json) → Prop) {evaluate : Json → Evaluate Json}

/-- No item of a list without filters is left out. -/
theorem outcome_mapItems (calm : ∀ item, Calm (evaluate item))
    {items : List Json} {results : List (Option Json)}
    (each : List.Forall₂ (fun item result => ∀ state : EvaluationState,
      holds state.binding? →
        (evaluate item).outcome state = result) items results)
    (index : Nat) {state : EvaluationState} (bound : holds state.binding?) :
    (mapItems 0 evaluate items index).outcome state = results.mapM id := by
  induction each generalizing index state with
  | nil => rfl
  | @cons item result items results here _ induction =>
      unfold mapItems
      let cleared : EvaluationState :=
        { state with pendingFilters := 0, rejected := false }
      have first :
          (within (.index index) (evaluate item)).outcome cleared = result :=
        here _ bound
      change (within (.index index) (evaluate item) >>= _).outcome cleared = _
      rw [(calm_within (calm item)).outcome_bind fun output =>
        (results.mapM id).map (output :: ·), first, List.mapM_cons]
      · cases result with
        | none => rfl
        | some output => cases results.mapM id <;> rfl
      · intro output later spared
        have kept : later.rejected = false := (spared.verdict rfl).2
        have still : holds later.binding? := by
          rw [spared.bindings]
          exact bound
        change (mapItems 0 evaluate items (index + 1) >>= _).outcome later = _
        rw [outcome_bind_pure, induction _ still]
        simp [kept]

/-- The entries of a dictionary are entered one after the other. -/
theorem outcome_addEntries (calm : ∀ item, Calm (evaluate item))
    {items : List Json} {results : List (Option Json)}
    (each : List.Forall₂ (fun item result => ∀ state : EvaluationState,
      holds state.binding? →
        (evaluate item).outcome state = result) items results)
    (index : Nat) (dictionary : Entries Json) {state : EvaluationState}
    (bound : holds state.binding?) :
    (addEntries evaluate items index dictionary).outcome state =
      (results.mapM id).bind
        fun entries => entries.foldlM Json.enter dictionary := by
  induction each generalizing index dictionary state with
  | nil => rfl
  | @cons item result items results here _ induction =>
      unfold addEntries
      have entered :
          Calm (evaluate item >>= fun entry => insertEntry dictionary entry) :=
        (calm item).bind (insertEntry_calm dictionary)
      rw [(calm_within entered).outcome_bind fun dictionary =>
        (results.mapM id).bind
          fun entries => entries.foldlM Json.enter dictionary]
      · have first : (within (.index index)
            (evaluate item >>=
              fun entry => insertEntry dictionary entry)).outcome state =
              result.bind (Json.enter dictionary) := by
          have found :=
            here { state with trail := .index index :: state.trail } bound
          rw [← found]
          exact (calm item).outcome_bind _ fun entry later _ =>
            outcome_insertEntry dictionary entry later
        rw [first, List.mapM_cons]
        cases result with
        | none => rfl
        | some entry =>
            simp only [id_eq, Option.bind_eq_bind, Option.bind_some,
              Option.pure_def]
            cases results.mapM id with
            | none => cases Json.enter dictionary entry <;> rfl
            | some entries => rfl
      · intro dictionary later spared
        refine induction _ _ ?_
        rw [spared.bindings]
        exact bound

end items

end Evaluate

namespace Program

/-- Whatever else a state holds, the program has one outcome on a value if what
it reads is bound as given: a result, or none if it fails. -/
def Computes (program : Program) (bindings : Nat → Option Json) (value : Json)
    (result : Option Json) : Prop :=
  ∀ state : EvaluationState,
    (∀ depth,
      program.readsBound depth = true → state.binding? depth = bindings depth) →
      (Evaluate.program none program value).outcome state = result

/-- The programs of a record compute the members of an object. -/
def FieldsCompute (fields : List (String × Program))
    (bindings : Nat → Option Json) (value : Json)
    (members : Option (List (String × Json))) : Prop :=
  ∀ state : EvaluationState,
    (∀ depth, readsBoundInFields depth fields = true →
      state.binding? depth = bindings depth) →
        (Evaluate.fieldPrograms none fields value).outcome state = members

namespace Computes

open Evaluate

variable {bindings : Nat → Option Json} {value : Json} {result : Option Json}
  {inner : Program}

theorem field {key : String} {member : Json}
    (found : value.member? key = some member)
    (inside : inner.Computes bindings member result) :
    (Program.field key inner).Computes bindings value result := by
  intro state bound
  unfold Evaluate.program
  rw [outcome_memberOf_bind found]
  exact inside _ bound

theorem readScalar {key : String} {type : TypeRef} {leaf : Json}
    (found : value.member? key = some leaf)
    (admits :
      type.wrapping.Admits (fun leaf => type.kind.accepts leaf = true) leaf) :
    (Program.readScalar key type).Computes bindings value (some leaf) := by
  intro state _
  have checked : ∀ state, (do
      checkLeaf type.name type.kind leaf type.wrapping
      pure leaf : Evaluate Json).outcome state = some leaf := by
    intro state
    rw [outcome_bind_pure, outcome_checkLeaf admits]
    rfl
  unfold Evaluate.program readLeaf
  rw [outcome_memberOf_bind found]
  cases leaf.isNull <;> exact checked _

theorem optional_null :
    (Program.optional inner).Computes bindings .null (some .null) :=
  fun _ _ => rfl

theorem optional (present : value.isNull = false)
    (inside : inner.Computes bindings value result) :
    (Program.optional inner).Computes bindings value result := by
  intro state bound
  unfold Evaluate.program
  rw [present]
  exact inside state bound

/-- A cast goes on inside the objects of a type and fails on others. -/
theorem cast {typeName name : String} (typed : value.typename? = some name)
    (inside : name = typeName → inner.Computes bindings value result)
    (fails : name ≠ typeName → result = none) :
    (Program.narrow typeName .cast inner).Computes bindings value result := by
  intro state bound
  have present : value.isNull = false := by
    cases value with
    | null => cases typed
    | _ => rfl
  have named : typenameOf value = pure name := by
    unfold typenameOf
    rw [show (value.member? typenameKey).bind Json.text? = some name from typed]
  unfold Evaluate.program
  rw [narrowed_cast present, named, pure_bind]
  by_cases same : name = typeName
  · rw [if_pos same]
    exact inside same state bound
  · rw [if_neg same, fails same]
    rfl

theorem bind {depth : Nat}
    (inside :
      inner.Computes (Function.update bindings depth (some value)) value
        result) :
    (Program.bind depth inner).Computes bindings value result := by
  intro state bound
  unfold Evaluate.program
  refine inside _ fun other reads => ?_
  rw [EvaluationState.binding?_rebind]
  by_cases same : other = depth
  · subst other
    rw [Function.update_self, Function.update_self]
  · rw [Function.update_of_ne same, Function.update_of_ne same]
    exact bound other (by simp [readsBound, reads, Ne.symm same])

theorem bindIfRead {depth : Nat}
    (inside :
      inner.Computes (Function.update bindings depth (some value)) value
        result) :
    (inner.bindIfRead depth).Computes bindings value result := by
  unfold Program.bindIfRead
  split
  · exact inside.bind
  · rename_i unread
    intro state bound
    refine inside state fun other reads => ?_
    have different : other ≠ depth := by
      intro same
      subst other
      exact unread reads
    rw [Function.update_of_ne different]
    exact bound other reads

theorem parameter {depth : Nat} {element : Json}
    (known : bindings depth = some element)
    (inside : inner.Computes bindings element result) :
    (Program.parameter depth inner).Computes bindings value result := by
  intro state bound
  have here : state.binding? depth = some element := by
    rw [bound depth (by simp [readsBound]), known]
  unfold Evaluate.program
  simp only [outcome, result_bind, result_get, here]
  exact inside state
    fun other reads => bound other (by simp [readsBound, reads])

theorem enforceSingle (inside : inner.Computes bindings value result) :
    (Program.enforceSingle inner).Computes bindings value
      (result.filter fun result => !result.isNull) := by
  intro state bound
  unfold Evaluate.program
  rw [outcome_required, inside { state with absentAt := none } bound]

theorem mapList {items : List Json} {results : List (Option Json)}
    (each : List.Forall₂ (inner.Computes bindings) items results) :
    (Program.mapList 0 inner).Computes bindings (.array items)
      ((results.mapM id).map Json.array) := by
  intro state bound
  unfold Evaluate.program
  rw [outcome_itemsOf_bind, outcome_bind_pure]
  change ((mapItems 0 (Evaluate.program none inner) items 0).outcome state).map
      _ = _
  rw [outcome_mapItems (fun known => ∀ depth, inner.readsBound depth = true →
    known depth = bindings depth) (program_calm none inner) each 0 bound]

theorem toDictionary {items : List Json} {results : List (Option Json)}
    (each : List.Forall₂ (inner.Computes bindings) items results) :
    (Program.toDictionary inner).Computes bindings (.array items)
      ((results.mapM id).bind fun entries =>
        (entries.foldlM Json.enter []).map Json.object) := by
  intro state bound
  unfold Evaluate.program
  rw [outcome_itemsOf_bind, outcome_bind_pure,
    outcome_addEntries (fun known => ∀ depth, inner.readsBound depth = true →
      known depth = bindings depth) (program_calm none inner) each 0 [] bound]
  cases results.mapM id <;> rfl

theorem keyValue {key : Program} {first second : Option Json}
    (keyed : key.Computes bindings value first)
    (inside : inner.Computes bindings value second) :
    (Program.keyValue key inner).Computes bindings value
      (first.bind fun key => second.map fun value => .array [key, value]) := by
  intro state bound
  unfold Evaluate.program
  rw [(program_calm none key value).outcome_bind fun key =>
    second.map fun value => .array [key, value],
    keyed state fun depth reads => bound depth (by simp [readsBound, reads])]
  intro key later spared
  rw [outcome_bind_pure, inside later]
  intro depth reads
  rw [spared.bindings]
  exact bound depth (by simp [readsBound, reads])

theorem buildRecord {fields : List (String × Program)}
    {members : Option (List (String × Json))}
    (each : FieldsCompute fields bindings value members) :
    (Program.buildRecord fields).Computes bindings value
      (members.map fun members => .object (Entries.ofAssignments members)) := by
  intro state bound
  unfold Evaluate.program
  rw [outcome_bind_pure, each state bound]

end Computes

namespace FieldsCompute

open Evaluate

variable {bindings : Nat → Option Json} {value : Json}

theorem nil : FieldsCompute [] bindings value (some []) := fun _ _ => rfl

theorem cons {key : String} {program : Program}
    {fields : List (String × Program)} {member : Option Json}
    {members : Option (List (String × Json))}
    (first : program.Computes bindings value member)
    (others : FieldsCompute fields bindings value members) :
    FieldsCompute ((key, program) :: fields) bindings value
      (member.bind
        fun member => members.map fun members => (key, member) :: members) := by
  intro state bound
  unfold Evaluate.fieldPrograms
  rw [(program_calm none program value).outcome_bind fun member =>
    members.map fun members => (key, member) :: members,
    first state
      fun depth reads => bound depth (by simp [readsBoundInFields, reads])]
  intro member later spared
  rw [outcome_bind_pure, others later]
  intro depth reads
  rw [spared.bindings]
  exact bound depth (by simp [readsBoundInFields, reads])

end FieldsCompute

end Program

end GraphPipeline
