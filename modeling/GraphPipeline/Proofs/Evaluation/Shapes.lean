import GraphPipeline.Proofs.Evaluation.Runs
import GraphPipeline.Proofs.Compile.Fitting

/-!
# Shapes of values

The value of a program is null or else a list, an object or a leaf, and the
program says which: its way leads to a list that is mapped, to a dictionary or a
record that is built, or to a field that is read.  Fields of custom scalar types
can hold anything.
-/

namespace GraphPipeline

/-- What a value that is not null can be. -/
inductive Shape where
  | list
  | object
  | leaf
  deriving DecidableEq

/-- The shape of a value, null having none. -/
def Json.shape? : Json → Option Shape
  | .null => none
  | .array _ => some .list
  | .object _ => some .object
  | .bool _ => some .leaf
  | .number _ => some .leaf
  | .string _ => some .leaf

theorem Json.shape?_eq_list {value : Json} :
    value.shape? = some .list ↔ ∃ items, value = .array items := by
  cases value <;> simp [shape?]

theorem Json.shape?_eq_object {value : Json} :
    value.shape? = some .object ↔ ∃ members, value = .object members := by
  cases value <;> simp [shape?]

/-- The kinds of leaves whose values are known: those of the built-in scalars
and of enumerations. -/
def TypeKind.isBuiltin : TypeKind → Bool
  | .scalar (.custom _) => false
  | .scalar _ => true
  | .enumeration => true
  | _ => false

/-- The shape of the values of a type of leaves. -/
def TypeRef.shape? (type : TypeRef) : Option Shape :=
  if type.kind.isBuiltin then some (if type.isList then .list else .leaf)
  else none

namespace Program

/-- The shape of the values of a program, where it is known. -/
def shape? : Program → Option Shape
  | .field _ inner => inner.shape?
  | .readScalar _ type => type.shape?
  | .optional inner => inner.shape?
  | .mapList _ _ => some .list
  | .narrow _ _ inner => inner.shape?
  | .buildRecord _ => some .object
  | .enforceSingle inner => inner.shape?
  | .toDictionary _ => some .object
  | .keyValue _ _ => some .list
  | .subquerySink _ _ inner => inner.shape?
  | .bind _ inner => inner.shape?
  | .parameter _ inner => inner.shape?

@[simp] theorem shape?_bindIfRead (program : Program) (depth : Nat) :
    (program.bindIfRead depth).shape? = program.shape? := by
  unfold bindIfRead
  split <;> rfl

end Program

namespace Evaluate

theorem accepts_shape {kind : TypeKind} (builtin : kind.isBuiltin = true)
    {value : Json}
    (accepted : kind.accepts value = true) : value.shape? = some .leaf := by
  cases kind with
  | scalar scalar =>
      cases scalar with
      | custom name => cases builtin
      | _ => cases value <;> first | rfl | cases accepted
  | enumeration => cases value <;> first | rfl | cases accepted
  | _ => cases builtin

theorem runs_checkKind {name : String} {kind : TypeKind}
    (builtin : kind.isBuiltin = true)
    {value : Json} {before after : EvaluationState}
    (run : (checkKind name kind value).Runs before ⟨⟩ after) :
    value.shape? = some .leaf := by
  unfold checkKind at run
  split at run
  · exact accepts_shape builtin ‹_›
  · simp at run

theorem runs_checkSingle {name : String} {kind : TypeKind} {wrapping : Wrapping}
    (builtin : kind.isBuiltin = true) {value : Json}
    {before after : EvaluationState}
    (run : (checkSingle name kind value wrapping).Runs before ⟨⟩ after) :
    wrapping.isList = false ∧ value.shape? = some .leaf := by
  unfold checkSingle at run
  split at run
  · simp at run
  · exact ⟨by simpa using ‹¬ wrapping.isList = true›,
      runs_checkKind builtin run⟩

/-- A leaf that is checked is null or has the shape of its type. -/
theorem runs_checkLeaf {type : TypeRef} (builtin : type.kind.isBuiltin = true)
    {value : Json} {before after : EvaluationState}
    (run :
      (checkLeaf type.name type.kind value type.wrapping).Runs before ⟨⟩
        after) :
    value = .null ∨ value.shape? = type.shape? := by
  have single : type.wrapping.isList = false ∧ value.shape? = some .leaf →
      value = .null ∨ value.shape? = type.shape? := by
    rintro ⟨noList, leaf⟩
    have unwrapped : type.isList = false := noList
    exact Or.inr (by rw [leaf, TypeRef.shape?, if_pos builtin, unwrapped]; rfl)
  cases value with
  | null => exact Or.inl rfl
  | array items =>
      unfold checkLeaf at run
      cases elementOf : type.wrapping.element? with
      | none =>
          simp only [elementOf] at run
          exact absurd (runs_checkKind builtin run) (by simp [Json.shape?])
      | some element =>
          have isList : type.isList = true := by
            cases wrapped : type.wrapping.isList with
            | true => exact wrapped
            | false =>
                rw [Wrapping.element?_eq_none.mpr wrapped] at elementOf
                cases elementOf
          exact Or.inr (by rw [TypeRef.shape?, if_pos builtin, isList]; rfl)
  | bool value => exact single (runs_checkSingle builtin run)
  | number value => exact single (runs_checkSingle builtin run)
  | string value => exact single (runs_checkSingle builtin run)
  | object members => exact single (runs_checkSingle builtin run)

theorem runs_readLeaf {key : String} {type : TypeRef}
    (builtin : type.kind.isBuiltin = true)
    {value output : Json} {before after : EvaluationState}
    (run : (readLeaf key type value).Runs before output after) :
    output = .null ∨ output.shape? = type.shape? := by
  simp only [readLeaf, runs_bind, runs_within] at run
  obtain ⟨leaf, _, _, last, checked, _⟩ := run
  split at checked
  · simp only [runs_bind, runs_pure] at checked
    obtain ⟨_, _, _, _, _, checked, rfl, _⟩ := checked
    exact runs_checkLeaf builtin checked
  · simp only [runs_bind, runs_pure] at checked
    obtain ⟨_, _, checked, rfl, _⟩ := checked
    exact runs_checkLeaf builtin checked

/-- Something that is required is not null. -/
theorem ne_null_of_required {action : Evaluate Json} {value : Json}
    {before after : EvaluationState}
    (run : (required action).Runs before value after) :
    value ≠ .null := by
  simp only [required, runs_bind] at run
  obtain ⟨_, _, _, result, middle, _, checked⟩ := run
  cases result with
  | null => simp [Json.isNull] at checked
  | _ =>
      simp only [Json.isNull, Bool.false_eq_true, if_false,
        runs_pure] at checked
      rw [← checked.1]
      simp

/-- The value of a program is null or has the shape of the program. -/
theorem program_shape {given : Option AllNodes} {shape : Shape}
    (program : Program) (shaped : program.shape? = some shape)
    {before after : EvaluationState} {value output : Json}
    (run : (Evaluate.program given program value).Runs before output after) :
    output = .null ∨ output.shape? = some shape := by
  cases program with
  | field key inner =>
      simp only [Evaluate.program, runs_bind, runs_within] at run
      obtain ⟨member, _, _, last, inside, _⟩ := run
      exact program_shape inner shaped inside
  | readScalar key type =>
      have builtin : type.kind.isBuiltin = true := by
        cases kind : type.kind.isBuiltin with
        | true => rfl
        | false => simp [Program.shape?, TypeRef.shape?, kind] at shaped
      rcases runs_readLeaf builtin run with null | same
      · exact Or.inl null
      · exact Or.inr (same.trans shaped)
  | optional inner =>
      simp only [Evaluate.program] at run
      split at run
      · exact Or.inl (runs_absent.mp run).1.symm
      · exact program_shape inner shaped run
  | mapList filters inner =>
      simp only [Evaluate.program, runs_bind, runs_pure] at run
      obtain ⟨_, _, _, outputs, _, _, rfl, _⟩ := run
      exact Or.inr shaped
  | narrow typeName mode inner =>
      simp only [Evaluate.program] at run
      cases mode with
      | filter =>
          rcases runs_narrowed_filter.mp run with ⟨_, inside⟩ | ⟨_, null, _⟩
          · exact program_shape inner shaped inside
          · exact Or.inl null.symm
      | cast => exact program_shape inner shaped (runs_narrowed_cast.mp run).2
  | buildRecord fields =>
      simp only [Evaluate.program, runs_bind, runs_pure] at run
      obtain ⟨members, _, _, rfl, _⟩ := run
      exact Or.inr shaped
  | enforceSingle inner =>
      simp only [Evaluate.program] at run
      exact program_shape inner shaped (runs_required run)
  | toDictionary entry =>
      simp only [Evaluate.program, runs_bind, runs_pure] at run
      obtain ⟨_, _, _, dictionary, _, _, rfl, _⟩ := run
      exact Or.inr shaped
  | keyValue key inner =>
      simp only [Evaluate.program, runs_bind, runs_pure] at run
      obtain ⟨_, _, _, _, _, _, rfl, _⟩ := run
      exact Or.inr shaped
  | subquerySink id keys inner =>
      simp only [Evaluate.program, runs_bind, runs_within] at run
      obtain ⟨nodes, _, _, last, inside, _⟩ := run
      exact program_shape inner shaped inside
  | bind depth inner =>
      simp only [Evaluate.program, runs_binding] at run
      obtain ⟨last, inside, _⟩ := run
      exact program_shape inner shaped inside
  | parameter depth inner =>
      simp only [Evaluate.program, runs_bind, runs_get] at run
      obtain ⟨state, _, _, run⟩ := run
      cases bound : state.binding? depth with
      | none => simp [bound] at run
      | some element =>
          simp only [bound] at run
          exact program_shape inner shaped run
termination_by structural program

end Evaluate

end GraphPipeline
