import GraphPipeline.Compile.Operation
import GraphPipeline.Proofs.SelectionArena

/-!
# Documents with declared types

The written document drops the types its fields were declared with.  A typed
document keeps them beside each selection, so that one can say which responses
conform to it.  Erasing the types gives the document that is sent.
-/

namespace GraphPipeline

mutual

/-- A selection set in which every field has its response key and its declared
type. -/
inductive TypedSet where
  | mk (requiresTypename : Bool) (fields : List TypedField)
      (fragments : List (String × TypedSet))

inductive TypedField where
  | mk (name key : String) (type : TypeRef) (arguments : List Argument)
      (selections : Option TypedSet)

end

namespace TypedSet

def requiresTypename : TypedSet → Bool
  | .mk requiresTypename _ _ => requiresTypename

def fields : TypedSet → List TypedField
  | .mk _ fields _ => fields

def fragments : TypedSet → List (String × TypedSet)
  | .mk _ _ fragments => fragments

/-- Whether the written set asks for the name of the type. -/
def asksTypename (set : TypedSet) : Bool :=
  set.requiresTypename || (set.fields.isEmpty && set.fragments.isEmpty)

mutual

/-- The set as it is written. -/
def erase : TypedSet → SelectionSet
  | .mk requiresTypename fields fragments =>
      .mk requiresTypename (eraseFields fields) (eraseFragments fragments)

def eraseFields : List TypedField → List FieldSelection
  | [] => []
  | field :: fields => eraseField field :: eraseFields fields

def eraseField : TypedField → FieldSelection
  | .mk name key _ arguments none =>
      .mk name (if key = name then none else some key) arguments none
  | .mk name key _ arguments (some selections) =>
      .mk name (if key = name then none else some key) arguments
        (some selections.erase)

def eraseFragments : List (String × TypedSet) → List (String × SelectionSet)
  | [] => []
  | (typeName, selections) :: fragments =>
      (typeName, selections.erase) :: eraseFragments fragments

end

theorem eraseFields_eq_map (fields : List TypedField) :
    eraseFields fields = fields.map eraseField := by
  induction fields with
  | nil => rfl
  | cons field fields induction => simp [eraseFields, induction]

theorem eraseFragments_eq_map (fragments : List (String × TypedSet)) :
    eraseFragments fragments =
      fragments.map fun fragment => (fragment.1, fragment.2.erase) := by
  induction fragments with
  | nil => rfl
  | cons fragment fragments induction =>
      obtain ⟨typeName, selections⟩ := fragment
      simp [eraseFragments, induction]

end TypedSet

namespace TypedField

def name : TypedField → String
  | .mk name _ _ _ _ => name

/-- The key of the field in the object that answers it. -/
def key : TypedField → String
  | .mk _ key _ _ _ => key

def type : TypedField → TypeRef
  | .mk _ _ type _ _ => type

def arguments : TypedField → List Argument
  | .mk _ _ _ arguments _ => arguments

def selections : TypedField → Option TypedSet
  | .mk _ _ _ _ selections => selections

end TypedField

namespace Selections

/-- The typed form of a set, down to a number of levels. -/
def typedTo (selections : Selections) : Nat → SetId → TypedSet
  | 0, _ => .mk false [] []
  | levels + 1, id =>
      let set := selections.set id
      .mk set.requiresTypename
        (set.fields.map fun record =>
          .mk record.name record.key record.type record.arguments
            (record.child.map (selections.typedTo levels)))
        (set.fragments.map fun fragment =>
          (fragment.1, selections.typedTo levels fragment.2))

/-- The typed form of a set. -/
def typed (selections : Selections) (id : SetId) : TypedSet :=
  selections.typedTo selections.sets.length id

theorem erase_typedTo (selections : Selections) (levels : Nat) (id : SetId) :
    (selections.typedTo levels id).erase =
      selections.materializeTo levels id := by
  induction levels generalizing id with
  | zero => rfl
  | succ levels induction =>
      simp only [typedTo, materializeTo, TypedSet.erase,
        TypedSet.eraseFields_eq_map, TypedSet.eraseFragments_eq_map,
        List.map_map, SelectionSet.mk.injEq, true_and]
      constructor
      · apply List.map_congr_left
        intro record _
        simp only [Function.comp]
        cases record.child with
        | none => rfl
        | some set =>
            simp only [Option.map_some]
            rw [TypedSet.eraseField, induction]
      · apply List.map_congr_left
        intro fragment _
        simp [induction]

/-- Erasing the types of a typed document gives the written one. -/
theorem erase_typed (selections : Selections) (id : SetId) :
    (selections.typed id).erase = selections.materialize id :=
  erase_typedTo selections selections.sets.length id

/-- Sets below others come later, so a set is complete once there are as many
levels as sets from it on. -/
theorem typedTo_stable {named : String → Prop} {selections : Selections}
    (wellFormed : WellFormed named selections) {levels others : Nat}
    {id : SetId}
    (enough : selections.sets.length ≤ levels + id)
    (otherEnough : selections.sets.length ≤ others + id) :
    selections.typedTo levels id = selections.typedTo others id := by
  have outside :
      ∀ {some : SetId} (levels : Nat), selections.sets.length ≤ some →
        selections.typedTo levels some = .mk false [] [] := by
    intro some levels beyond
    cases levels with
    | zero => rfl
    | succ levels =>
        simp [typedTo, set, List.getElem?_eq_none beyond, SetRecord.empty]
  induction levels generalizing others id with
  | zero =>
      have beyond : selections.sets.length ≤ id := by simpa using enough
      rw [outside 0 beyond, outside others beyond]
  | succ levels induction =>
      cases others with
      | zero =>
          have beyond : selections.sets.length ≤ id := by
            simpa using otherEnough
          rw [outside (levels + 1) beyond, outside 0 beyond]
      | succ others =>
          have deeper : ∀ {below : SetId}, id < below →
              selections.typedTo levels below =
                selections.typedTo others below := by
            intro below later
            have strict : id + 1 ≤ below := later
            apply induction
            · calc
                selections.sets.length ≤ levels + 1 + id := enough
                _ = levels + (id + 1) := by rw [Nat.add_assoc, Nat.add_comm 1]
                _ ≤ levels + below := Nat.add_le_add_left strict levels
            · calc
                selections.sets.length ≤ others + 1 + id := otherEnough
                _ = others + (id + 1) := by rw [Nat.add_assoc, Nat.add_comm 1]
                _ ≤ others + below := Nat.add_le_add_left strict others
          simp only [typedTo, TypedSet.mk.injEq, true_and]
          constructor
          · apply List.map_congr_left
            intro record member
            cases child : record.child with
            | none => rfl
            | some set =>
                simp [deeper (wellFormed.childAfter member child).1]
          · apply List.map_congr_left
            intro fragment member
            rw [deeper (wellFormed.fragmentAfter member).1]

/-- The typed form of a recorded field. -/
def typedField (selections : Selections) (record : FieldRecord) : TypedField :=
  .mk record.name record.key record.type record.arguments
    (record.child.map selections.typed)

/-- The typed form of a set in terms of the sets below it. -/
theorem typed_eq {named : String → Prop} {selections : Selections}
    (wellFormed : WellFormed named selections) (id : SetId) :
    selections.typed id =
      .mk (selections.set id).requiresTypename
        ((selections.set id).fields.map selections.typedField)
        ((selections.set id).fragments.map fun fragment =>
          (fragment.1, selections.typed fragment.2)) := by
  have unfolded : selections.typed id =
      selections.typedTo (selections.sets.length + 1) id := by
    apply typedTo_stable wellFormed
    · exact Nat.le_add_right _ _
    · exact Nat.le_trans (Nat.le_succ _) (Nat.le_add_right _ _)
  rw [unfolded]
  simp only [typedTo, TypedSet.mk.injEq, true_and]
  constructor
  · apply List.map_congr_left
    intro record _
    rfl
  · rfl

theorem fields_typed {named : String → Prop} {selections : Selections}
    (wellFormed : WellFormed named selections) (id : SetId) :
    (selections.typed id).fields =
      (selections.set id).fields.map selections.typedField := by
  rw [typed_eq wellFormed]
  rfl

theorem fragments_typed {named : String → Prop} {selections : Selections}
    (wellFormed : WellFormed named selections) (id : SetId) :
    (selections.typed id).fragments =
      (selections.set id).fragments.map fun fragment =>
        (fragment.1, selections.typed fragment.2) := by
  rw [typed_eq wellFormed]
  rfl

end Selections

/-- The program of a pipeline and the finished compilation it comes from. -/
def Pipeline.compiled? (pipeline : Pipeline) :
    Option (Program × CompileState) :=
  pipeline.operationKind?.bind fun kind =>
    (Compile.pipeline [Compile.rootScope kind] pipeline
      CompileState.initial).toOption

/-- The document of a pipeline with the declared types of its fields. -/
def Pipeline.typedDocument? (pipeline : Pipeline) : Option TypedSet :=
  pipeline.compiled?.map
    fun compiled => compiled.2.selections.typed Selections.rootId

/-- What a compilation that succeeds has done. -/
theorem compile_eq_ok {pipeline : Pipeline} {compiled : CompiledOperation}
    (success : compile pipeline = .ok compiled) :
    ∃ kind program state, pipeline.operationKind? = some kind ∧
      Compile.pipeline [Compile.rootScope kind] pipeline CompileState.initial =
        .ok (program, state) ∧
      compiled =
        { operation := state.operation kind, program,
          subqueries := state.subqueries } ∧
      pipeline.compiled? = some (program, state) := by
  unfold compile at success
  cases kindOf : pipeline.operationKind? with
  | none => simp [kindOf] at success
  | some kind =>
      simp only [kindOf] at success
      cases result : Compile.pipeline [Compile.rootScope kind] pipeline
          CompileState.initial with
      | error error => simp [result, Except.map] at success
      | ok pair =>
          obtain ⟨program, state⟩ := pair
          simp only [result, Except.map, Except.ok.injEq] at success
          refine ⟨kind, program, state, rfl, result, success.symm, ?_⟩
          simp [Pipeline.compiled?, kindOf, result, Except.toOption]

end GraphPipeline
