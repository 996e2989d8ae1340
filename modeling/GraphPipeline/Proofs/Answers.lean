import GraphPipeline.Proofs.Conformance
import GraphPipeline.Proofs.ResponseKeys
import GraphPipeline.Proofs.Meaning

/-!
# What answers hold

A value that answers a selection set for an object holds, under the response key
of each recorded field, an answer to what the field resolves to: a leaf of its
type, or objects that are answered for the set below the field.
-/

namespace GraphPipeline

namespace Resolved

variable {Node : Type} {kind : TypeKind} {answers others : Node → Json → Prop}
  {holds : Node → Prop}

mutual

/-- What holds of every object adds to what answers it. -/
theorem AnsweredBy.strengthen {resolved : Resolved Node} {answer : Json}
    (answered : resolved.AnsweredBy answers answer)
    (each : resolved.EachObject holds)
    (implies :
      ∀ {node answer}, answers node answer → holds node → others node answer) :
    resolved.AnsweredBy others answer := by
  cases resolved with
  | null => exact answered
  | leaf value => exact answered
  | object node => exact implies answered each
  | list items =>
      obtain ⟨found, rfl, all⟩ := answered
      exact ⟨found, rfl, AllAnsweredBy.strengthen all each implies⟩

theorem AllAnsweredBy.strengthen {items : List (Resolved Node)}
    {found : List Json}
    (answered : AllAnsweredBy answers items found)
    (each : EachObjectOfAll holds items)
    (implies :
      ∀ {node answer}, answers node answer → holds node → others node answer) :
    AllAnsweredBy others items found := by
  cases items with
  | nil => exact answered
  | cons item items =>
      obtain ⟨answer, later, rfl, first, rest⟩ := answered
      exact ⟨answer, later, rfl, AnsweredBy.strengthen first each.1 implies,
        AllAnsweredBy.strengthen rest each.2 implies⟩

end

mutual

/-- The answer to a value without objects is the value itself, which has its
type. -/
theorem AnsweredBy.admits {resolved : Resolved Node} {answer : Json}
    {wrapping : Wrapping}
    (answered : resolved.AnsweredBy (fun _ _ => False) answer)
    (typed : resolved.HasType kind wrapping) :
    wrapping.Admits (fun leaf => kind.accepts leaf = true) answer := by
  cases resolved with
  | null =>
      obtain rfl := answered
      exact .null typed
  | leaf value =>
      obtain rfl := answered
      obtain ⟨single, _, present, accepted⟩ := typed
      exact .value single present accepted
  | object node => exact answered.elim
  | list items =>
      obtain ⟨found, rfl, all⟩ := answered
      obtain ⟨element, known, each⟩ := typed
      exact .list known (AllAnsweredBy.admits all each)

theorem AllAnsweredBy.admits {items : List (Resolved Node)} {found : List Json}
    {wrapping : Wrapping}
    (answered : AllAnsweredBy (fun _ _ => False) items found)
    (typed : AllHaveType kind items wrapping) :
    ∀ answer ∈ found,
      wrapping.Admits (fun leaf => kind.accepts leaf = true) answer := by
  cases items with
  | nil =>
      obtain rfl := answered
      intro answer member
      cases member
  | cons item items =>
      obtain ⟨first, others, rfl, here, rest⟩ := answered
      intro answer member
      rcases List.mem_cons.mp member with rfl | later
      · exact AnsweredBy.admits here typed.1
      · exact AllAnsweredBy.admits rest typed.2 answer later

end

mutual

theorem AnsweredBy.json_eq {resolved : Resolved Node} {answer : Json}
    (answered : resolved.AnsweredBy (fun _ _ => False) answer) :
    resolved.json = answer := by
  cases resolved with
  | null => exact answered.symm
  | leaf value => exact answered.symm
  | object node => exact answered.elim
  | list items =>
      obtain ⟨found, rfl, all⟩ := answered
      exact congrArg Json.array (AllAnsweredBy.json_eq all)

theorem AllAnsweredBy.json_eq {items : List (Resolved Node)} {found : List Json}
    (answered : AllAnsweredBy (fun _ _ => False) items found) :
    jsonOfAll items = found := by
  cases items with
  | nil => exact answered.symm
  | cons item items =>
      obtain ⟨answer, others, rfl, here, rest⟩ := answered
      unfold jsonOfAll
      rw [AnsweredBy.json_eq here, AllAnsweredBy.json_eq rest]

end

theorem AnsweredBy.read_item {resolved : Resolved Node} {answer : Json}
    (answered : resolved.AnsweredBy (fun _ _ => False) answer) :
    Item.read Item.json? resolved.item = some answer := by
  rw [← answered.json_eq]
  cases resolved with
  | null => rfl
  | leaf value => rfl
  | object node => exact answered.elim
  | list items => rfl

/-- What is found of a value without objects is its answer. -/
theorem AnsweredBy.json?_found {resolved : Resolved Node} {answer : Json}
    (answered : resolved.AnsweredBy (fun _ _ => False) answer) :
    resolved.found.json? = some answer := by
  cases resolved with
  | null => exact answered.read_item
  | leaf value => exact answered.read_item
  | object node => exact answered.elim
  | list items =>
      obtain ⟨found, rfl, all⟩ := answered
      have gathered :
          (items.map item).mapM (Item.read Item.json?) = some found := by
        induction items generalizing found with
        | nil =>
            obtain rfl := all
            rfl
        | cons item items induction =>
            obtain ⟨answer, others, rfl, here, rest⟩ := all
            rw [List.map_cons, List.mapM_cons, here.read_item,
              induction others rest]
            rfl
      change ((items.map item).mapM (Item.read Item.json?)).bind Found.arrayOf =
        _
      rw [gathered]
      rfl

/-- A value of objects without lists is null or an object. -/
theorem HasType.object_cases {resolved : Resolved Node} {answer : Json}
    {wrapping : Wrapping}
    (typed : resolved.HasType kind wrapping)
    (composite : kind.isComposite = true) (single : wrapping.element? = none)
    (answered : resolved.AnsweredBy answers answer) :
    (resolved = .null ∧ answer = .null ∧ wrapping.isRequired = false) ∨
      ∃ node, resolved = .object node ∧ answers node answer := by
  cases resolved with
  | null => exact .inl ⟨rfl, answered, typed⟩
  | leaf value =>
      have leaf := typed.2.1
      rw [composite] at leaf
      cases leaf
  | object node => exact .inr ⟨node, rfl, answered⟩
  | list items =>
      obtain ⟨element, known, _⟩ := typed
      rw [single] at known
      cases known

/-- A list of objects is null or a list whose items are answered one by one. -/
theorem HasType.list_cases {resolved : Resolved Node} {answer : Json}
    {wrapping element : Wrapping}
    (typed : resolved.HasType kind wrapping)
    (listed : wrapping.element? = some element)
    (answered : resolved.AnsweredBy answers answer) :
    (resolved = .null ∧ answer = .null ∧ wrapping.isRequired = false) ∨
      ∃ items found, resolved = .list items ∧ answer = .array found ∧
        List.Forall₂ (fun item answer =>
          item.HasType kind element ∧
            item.AnsweredBy answers answer) items found := by
  have isList : wrapping.isList ≠ false := by
    intro single
    rw [Wrapping.element?_eq_none.mpr single] at listed
    cases listed
  cases resolved with
  | null => exact .inl ⟨rfl, answered, typed⟩
  | leaf value => exact absurd typed.1 isList
  | object node => exact absurd typed.1 isList
  | list items =>
      obtain ⟨found, rfl, all⟩ := answered
      obtain ⟨other, known, each⟩ := typed
      obtain rfl := Option.some.inj (known.symm.trans listed)
      refine .inr ⟨items, found, rfl, rfl, ?_⟩
      clear listed known isList
      induction items generalizing found with
      | nil =>
          obtain rfl := all
          exact .nil
      | cons item items induction =>
          obtain ⟨answer, others, rfl, here, rest⟩ := all
          exact .cons ⟨each.1, here⟩ (induction others rest each.2)

end Resolved

theorem SelectionSet.answersFields_iff {graph : Graph}
    {fields : List FieldSelection} {node : graph.Node}
    {members : Entries Json} :
    SelectionSet.AnswersFields graph fields node members ↔
      ∀ field ∈ fields, FieldSelection.Answers graph field node members := by
  induction fields with
  | nil => simp [SelectionSet.AnswersFields]
  | cons field fields induction => simp [SelectionSet.AnswersFields, induction]

theorem SelectionSet.answersFragments_iff {graph : Graph}
    {fragments : List (String × SelectionSet)} {node : graph.Node}
    {members : Entries Json} :
    SelectionSet.AnswersFragments graph fragments node members ↔
      ∀ fragment ∈ fragments, graph.typeName node = fragment.1 →
        SelectionSet.Answers graph fragment.2 node (.object members) := by
  induction fragments with
  | nil => simp [SelectionSet.AnswersFragments]
  | cons fragment fragments induction =>
    simp [SelectionSet.AnswersFragments, induction]

theorem TypedSet.fieldsServedBy_iff {graph : Graph} {fields : List TypedField}
    {node : graph.Node} :
    TypedSet.FieldsServedBy graph fields node ↔
      ∀ field ∈ fields, TypedField.ServedBy graph field node := by
  induction fields with
  | nil => simp [TypedSet.FieldsServedBy]
  | cons field fields induction => simp [TypedSet.FieldsServedBy, induction]

theorem TypedSet.fragmentsServedBy_iff {graph : Graph}
    {fragments : List (String × TypedSet)} {node : graph.Node} :
    TypedSet.FragmentsServedBy graph fragments node ↔
      ∀ fragment ∈ fragments, graph.typeName node = fragment.1 →
        TypedSet.ServedBy graph fragment.2 node := by
  induction fragments with
  | nil => simp [TypedSet.FragmentsServedBy]
  | cons fragment fragments induction =>
    simp [TypedSet.FragmentsServedBy, induction]

/-- A value answers the selections of a set for an object, which the graph
serves. -/
structure Selections.Answered (selections : Selections) (graph : Graph)
    (set : SetId) (node : graph.Node) (value : Json) : Prop where
  answers : SelectionSet.Answers graph (selections.typed set).erase node value
  served : TypedSet.ServedBy graph (selections.typed set) node

namespace Selections.Answered

variable {named : String → Prop} {selections : Selections} {graph : Graph}
  {set : SetId} {node : graph.Node} {value : Json}

theorem isNull (answered : selections.Answered graph set node value) :
    value.isNull = false := by
  have answers := answered.answers
  cases typed : (selections.typed set).erase with
  | mk requiresTypename fields fragments =>
      rw [typed] at answers
      obtain ⟨members, rfl, _⟩ := answers
      rfl

/-- Under the response key of a field is the answer to what the field resolves
to. -/
theorem field (formed : selections.WellFormed named)
    (answered : selections.Answered graph set node value) {record : FieldRecord}
    (member : record ∈ (selections.set set).fields) :
    ∃ answer, value.member? record.key = some answer ∧
      (graph.field node record.name record.arguments).HasType record.type.kind
        record.type.wrapping ∧
      match record.child with
      | none =>
          (graph.field node record.name record.arguments).AnsweredBy
            (fun _ _ => False) answer
      | some below =>
          (graph.field node record.name record.arguments).AnsweredBy
            (selections.Answered graph below) answer := by
  obtain ⟨answers, served⟩ := answered
  rw [typed_eq formed set, TypedSet.erase,
    TypedSet.eraseFields_eq_map] at answers
  rw [typed_eq formed set] at served
  obtain ⟨members, rfl, _, fields, _⟩ := answers
  have here := SelectionSet.answersFields_iff.mp fields _
    (List.mem_map_of_mem (List.mem_map_of_mem member))
  have servedHere :=
    TypedSet.fieldsServedBy_iff.mp served.1 _ (List.mem_map_of_mem member)
  have keyed : (if record.key = record.name then none else some record.key).getD
      record.name = record.key := by
    split
    · rename_i same
      exact same.symm
    · rfl
  unfold typedField at here servedHere
  cases child : record.child with
  | none =>
      simp only [child, Option.map_none] at here servedHere
      obtain ⟨answer, found, matching⟩ := here
      rw [keyed] at found
      exact ⟨answer, found, servedHere, matching⟩
  | some below =>
      simp only [child, Option.map_some] at here servedHere
      obtain ⟨answer, found, matching⟩ := here
      rw [keyed] at found
      obtain ⟨typed, each⟩ := servedHere
      exact ⟨answer, found, typed,
        matching.strengthen each fun answers served =>
        ⟨answers, served⟩⟩

/-- Under the response key of a selected field is the answer to the field. -/
theorem selected
    (formed : selections.WellFormed fun name => isGraphqlName name = true)
    (answered : selections.Answered graph set node value)
    {definition : FieldDefinition}
    (nameOf : isGraphqlName definition.name = true) {arguments : List Argument}
    {selected : SelectedField}
    (holds : selections.Holds set definition arguments selected) :
    ∃ answer, value.member? selected.key = some answer ∧
      (graph.field node definition.name arguments).HasType definition.type.kind
        definition.type.wrapping ∧
      match selected.child with
      | none =>
          (graph.field node definition.name arguments).AnsweredBy
            (fun _ _ => False) answer
      | some below =>
          (graph.field node definition.name arguments).AnsweredBy
            (selections.Answered graph below) answer := by
  obtain ⟨record, member, signed, sameType, rfl⟩ := holds
  rw [formed.signed member] at signed
  obtain ⟨sameName, sameArguments⟩ :=
    signature_injective (formed.nameOf member) nameOf signed
  have sameField : graph.field node record.name record.arguments =
      graph.field node definition.name arguments := by
    unfold Graph.field
    rw [sameName, sameArguments]
  rw [← sameField, ← sameType]
  exact answered.field formed member

theorem typename? (formed : selections.WellFormed named)
    (answered : selections.Answered graph set node value)
    (required : (selections.set set).requiresTypename = true) :
    value.typename? = some (graph.typeName node) := by
  have answers := answered.answers
  rw [typed_eq formed set, TypedSet.erase] at answers
  obtain ⟨members, rfl, named, _⟩ := answers
  have found :=
    named (by
      simp [SelectionSet.asksTypename, SelectionSet.requiresTypename, required])
  unfold Json.typename? Json.member? Json.members?
  simp [found, Json.text?]

/-- An answer for an object of a type answers the selections on that type. -/
theorem fragment (formed : selections.WellFormed named)
    (answered : selections.Answered graph set node value) {typeName : String}
    {inner : SetId}
    (found :
      Entries.lookup? (selections.set set).fragments typeName = some inner)
    (typed : graph.typeName node = typeName) :
    selections.Answered graph inner node value := by
  obtain ⟨answers, served⟩ := answered
  rw [typed_eq formed set, TypedSet.erase,
    TypedSet.eraseFragments_eq_map] at answers
  rw [typed_eq formed set] at served
  obtain ⟨members, rfl, _, _, fragments⟩ := answers
  have member := Entries.mem_of_lookup? found
  constructor
  · exact SelectionSet.answersFragments_iff.mp fragments _
      (List.mem_map_of_mem (List.mem_map_of_mem member)) typed
  · exact TypedSet.fragmentsServedBy_iff.mp served.2 _
      (List.mem_map_of_mem member) typed

end Selections.Answered

end GraphPipeline
