import GraphPipeline.Proofs.TypedDocument
import GraphPipeline.Proofs.Evaluation.Actions

/-!
# Responses that conform to a document

A response conforms to a typed document when every selected field is present and
its values are as the declared type says: null only where the type admits it,
lists where it has lists, leaves of its kind, and objects that conform to the
selections on the field.
-/

namespace GraphPipeline

namespace Wrapping

/-- A value of a wrapped type, the values of which satisfy a property inside of
the wrapping. -/
inductive Admits (holds : Json → Prop) : Wrapping → Json → Prop where
  | null {wrapping : Wrapping} :
      wrapping.isRequired = false → Admits holds wrapping .null
  | value {wrapping : Wrapping} {value : Json} :
      wrapping.isList = false → value.isNull = false → holds value →
        Admits holds wrapping value
  | list {wrapping element : Wrapping} {items : List Json} :
      wrapping.element? = some element →
        (∀ item ∈ items, Admits holds element item) →
        Admits holds wrapping (.array items)

theorem element?_eq_none {wrapping : Wrapping} :
    wrapping.element? = none ↔ wrapping.isList = false := by
  unfold element? isList
  cases wrapping.listCount <;> simp

end Wrapping

mutual

/-- An object that conforms to a selection set. -/
def TypedSet.Admits : TypedSet → Json → Prop
  | .mk requiresTypename fields fragments, value =>
      ∃ members, value = .object members ∧
        (TypedSet.asksTypename (.mk requiresTypename fields fragments) = true →
          ∃ typeName,
            Entries.lookup? members typenameKey = some (.string typeName)) ∧
        TypedSet.AdmitsFields fields members ∧
          TypedSet.AdmitsFragments fragments members

def TypedSet.AdmitsFields : List TypedField → Entries Json → Prop
  | [], _ => True
  | field :: fields, members =>
      TypedField.Admits field members ∧ TypedSet.AdmitsFields fields members

/-- The field is present among the members of an object and has its type. -/
def TypedField.Admits : TypedField → Entries Json → Prop
  | .mk _ key type _ none, members =>
      ∃ value, Entries.lookup? members key = some value ∧
        type.wrapping.Admits (fun leaf => type.kind.accepts leaf = true) value
  | .mk _ key type _ (some selections), members =>
      ∃ value, Entries.lookup? members key = some value ∧
        type.wrapping.Admits (TypedSet.Admits selections) value

def TypedSet.AdmitsFragments : List (String × TypedSet) → Entries Json → Prop
  | [], _ => True
  | (typeName, selections) :: fragments, members =>
      (Entries.lookup? members typenameKey = some (.string typeName) →
        TypedSet.Admits selections (.object members)) ∧
      TypedSet.AdmitsFragments fragments members

end

namespace TypedSet

theorem admitsFields_iff {fields : List TypedField} {members : Entries Json} :
    AdmitsFields fields members ↔ ∀ field ∈ fields, field.Admits members := by
  induction fields with
  | nil => simp [AdmitsFields]
  | cons field fields induction => simp [AdmitsFields, induction]

theorem admitsFragments_iff {fragments : List (String × TypedSet)}
    {members : Entries Json} :
    AdmitsFragments fragments members ↔ ∀ fragment ∈ fragments,
      Entries.lookup? members typenameKey = some (.string fragment.1) →
        fragment.2.Admits (.object members) := by
  induction fragments with
  | nil => simp [AdmitsFragments]
  | cons fragment fragments induction => simp [AdmitsFragments, induction]

end TypedSet

namespace Evaluate

variable {bindings : Nat → Option Json} {recorded : Pages → Prop}
  {expected : ExtractionError → Prop}

theorem checkItems_settles {name : String} {kind : TypeKind}
    {element : Wrapping}
    {items : List Json} (each : ∀ item ∈ items,
      Settles bindings recorded expected (fun _ => True)
        (checkLeaf name kind item element))
    (index : Nat) :
    Settles bindings recorded expected (fun _ => True)
      (checkItems name kind items element index) := by
  induction items generalizing index with
  | nil => exact settles_pure trivial
  | cons item items induction =>
      unfold checkItems
      refine (settles_within (each item List.mem_cons_self)).bind fun _ _ => ?_
      exact induction
        (fun other member => each other (List.mem_cons_of_mem _ member)) _

/-- A leaf of its declared type passes the check. -/
theorem checkLeaf_settles {name : String} {kind : TypeKind}
    {wrapping : Wrapping} {value : Json}
    (admits : wrapping.Admits (fun leaf => kind.accepts leaf = true) value) :
    Settles bindings recorded expected (fun _ => True)
      (checkLeaf name kind value wrapping) := by
  induction admits with
  | null optional =>
      unfold checkLeaf
      simp only [optional]
      exact settles_pure trivial
  | list element each induction =>
      unfold checkLeaf
      simp only [element]
      exact checkItems_settles induction 0
  | @value wrapping value single present accepted =>
      have passes : ∀ {value}, kind.accepts value = true →
          Settles bindings recorded expected (fun _ => True)
            (checkSingle name kind value wrapping) := by
        intro value accepted
        simp only [checkSingle, single, checkKind, accepted]
        exact settles_pure trivial
      cases value with
      | null => simp [Json.isNull] at present
      | array items =>
          have noElement := Wrapping.element?_eq_none.mpr single
          unfold checkLeaf
          simp only [noElement, checkKind, accepted]
          exact settles_pure trivial
      | bool value => simpa only [checkLeaf] using passes accepted
      | number value => simpa only [checkLeaf] using passes accepted
      | string value => simpa only [checkLeaf] using passes accepted
      | object members => simpa only [checkLeaf] using passes accepted

end Evaluate

end GraphPipeline
