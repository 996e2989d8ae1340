import Mathlib
import GraphPipeline.Proofs.SelectedPaths

/-!
# References to variables

A document refers to variables in the arguments of its fields.  Each set of an
arena, the one of the root apart, is directly below one other set.  So the
references of the written document are those of all sets of its arena, each as
often as it stands there.
-/

namespace GraphPipeline

namespace ArgumentValue

mutual

/-- The variables in a value, as often as it refers to them. -/
def variableNames : ArgumentValue → List String
  | .variableRef name => [name]
  | .list items => variableNamesOfItems items
  | .object fields => variableNamesOfFields fields
  | .literal _ => []
  | .enumeration _ => []
  | .omitted => []

def variableNamesOfItems : List ArgumentValue → List String
  | [] => []
  | item :: items => item.variableNames ++ variableNamesOfItems items

def variableNamesOfFields : List (InputField ArgumentValue) → List String
  | [] => []
  | ⟨_, _, value⟩ :: fields =>
    value.variableNames ++ variableNamesOfFields fields

end

mutual

/-- The variables that are declared for a value are those it refers to. -/
theorem map_variableUses (value : ArgumentValue) (type : TypeRef) :
    (value.variableUses type).map (·.1) = value.variableNames := by
  cases value with
  | variableRef name => simp [variableUses, variableNames]
  | list items =>
      rw [variableUses, variableNames]
      exact map_variableUsesOfItems items _
  | object fields =>
      rw [variableUses, variableNames]
      exact map_variableUsesOfFields fields
  | literal value => simp [variableUses, variableNames]
  | enumeration name => simp [variableUses, variableNames]
  | omitted => simp [variableUses, variableNames]

theorem map_variableUsesOfItems (items : List ArgumentValue)
    (element : TypeRef) :
    (variableUsesOfItems items element).map (·.1) =
      variableNamesOfItems items := by
  cases items with
  | nil => simp [variableUsesOfItems, variableNamesOfItems]
  | cons item items =>
      rw [variableUsesOfItems, variableNamesOfItems, List.map_append,
        map_variableUses item element, map_variableUsesOfItems items element]

theorem map_variableUsesOfFields (fields : List (InputField ArgumentValue)) :
    (variableUsesOfFields fields).map (·.1) = variableNamesOfFields fields := by
  cases fields with
  | nil => simp [variableUsesOfFields, variableNamesOfFields]
  | cons field fields =>
      obtain ⟨name, type, value⟩ := field
      rw [variableUsesOfFields, variableNamesOfFields, List.map_append,
        map_variableUses value type, map_variableUsesOfFields fields]

end

end ArgumentValue

def Argument.variableNames (arguments : List Argument) : List String :=
  arguments.flatMap (·.value.variableNames)

namespace SelectionSet

mutual

/-- The variables in the arguments of a set and of the sets below it. -/
def variableNames : SelectionSet → List String
  | .mk _ fields fragments =>
      variableNamesOfFields fields ++ variableNamesOfFragments fragments

def variableNamesOfFields : List FieldSelection → List String
  | [] => []
  | field :: fields =>
    variableNamesOfField field ++ variableNamesOfFields fields

def variableNamesOfField : FieldSelection → List String
  | .mk _ _ arguments none => Argument.variableNames arguments
  | .mk _ _ arguments (some selections) =>
      Argument.variableNames arguments ++ selections.variableNames

def variableNamesOfFragments : List (String × SelectionSet) → List String
  | [] => []
  | (_, selections) :: fragments =>
      selections.variableNames ++ variableNamesOfFragments fragments

end

theorem variableNamesOfFields_eq (fields : List FieldSelection) :
    variableNamesOfFields fields = fields.flatMap variableNamesOfField := by
  induction fields with
  | nil => rfl
  | cons field fields induction => simp [variableNamesOfFields, induction]

theorem variableNamesOfFragments_eq (fragments : List (String × SelectionSet)) :
    variableNamesOfFragments fragments =
      fragments.flatMap (·.2.variableNames) := by
  induction fragments with
  | nil => rfl
  | cons fragment fragments induction =>
      obtain ⟨typeName, selections⟩ := fragment
      simp [variableNamesOfFragments, induction]

/-- A field is selected at a response path. -/
inductive Selects : SelectionSet → List String → FieldSelection → Prop where
  | here {set : SelectionSet} {field : FieldSelection} :
      field ∈ set.fields → Selects set [field.responseKey] field
  | inside {set inner : SelectionSet} {path : List String}
      {outer field : FieldSelection} :
      outer ∈ set.fields → outer.selections = some inner →
        Selects inner path field →
      Selects set (outer.responseKey :: path) field
  | fragment {set inner : SelectionSet} {path : List String}
      {field : FieldSelection} {typeName : String} :
      (typeName, inner) ∈ set.fragments → Selects inner path field →
        Selects set path field

end SelectionSet

namespace SetRecord

/-- The sets directly below a set. -/
def children (set : SetRecord) : List SetId :=
  set.fields.filterMap (·.child) ++ set.fragments.map (·.2)

/-- The variables in the arguments of the fields of a set. -/
def variableNames (set : SetRecord) : List String :=
  set.fields.flatMap fun record => Argument.variableNames record.arguments

theorem children_addField (set : SetRecord) (record : FieldRecord) :
    ({ set with fields := set.fields ++ [record] } : SetRecord).children.Perm
      (set.children ++ record.child.toList) := by
  have last : [record].filterMap (·.child) = record.child.toList := by
    cases child : record.child <;> simp [child]
  simp only [children, List.filterMap_append, last, List.append_assoc]
  exact List.perm_append_comm.append_left _

theorem variableNames_addField (set : SetRecord) (record : FieldRecord) :
    ({ set with fields := set.fields ++ [record] } : SetRecord).variableNames =
      set.variableNames ++ Argument.variableNames record.arguments := by
  simp [variableNames]

end SetRecord

namespace Selections

def children (selections : Selections) : List SetId :=
  selections.sets.flatMap SetRecord.children

def variableNames (selections : Selections) : List String :=
  selections.sets.flatMap SetRecord.variableNames

/-- Each set but that of the root is directly below one other set. -/
structure IsForest (selections : Selections) : Prop where
  nonempty : 0 < selections.sets.length
  children :
    selections.children.Perm (List.range' 1 (selections.sets.length - 1))

/-- The written form of a recorded field. -/
def written (selections : Selections) (record : FieldRecord) : FieldSelection :=
  .mk record.name (if record.key = record.name then none else some record.key)
    record.arguments (record.child.map selections.materialize)

variable {named : String → Prop} {selections : Selections}

theorem responseKey_written (selections : Selections) (record : FieldRecord) :
    (selections.written record).responseKey = record.key := by
  simp only [written, FieldSelection.responseKey, FieldSelection.responseAlias,
    FieldSelection.name]
  split
  · rename_i same
    exact same.symm
  · rfl

/-- The written form of a set in terms of the sets below it. -/
theorem materialize_eq (formed : WellFormed named selections) (id : SetId) :
    selections.materialize id =
      .mk (selections.set id).requiresTypename
        ((selections.set id).fields.map selections.written)
        ((selections.set id).fragments.map fun fragment =>
          (fragment.1, selections.materialize fragment.2)) := by
  have sameField :
      ∀ record, TypedSet.eraseField (selections.typedField record) =
        selections.written record := by
    intro record
    unfold typedField written
    cases record.child with
    | none => rfl
    | some child =>
        simp only [Option.map_some]
        rw [TypedSet.eraseField, erase_typed]
  rw [← erase_typed, typed_eq formed]
  simp only [TypedSet.erase, TypedSet.eraseFields_eq_map,
    TypedSet.eraseFragments_eq_map, List.map_map, Function.comp_def, sameField,
    erase_typed]

/-! ### All references of a document -/

theorem variableNames_written (selections : Selections) (record : FieldRecord) :
    SelectionSet.variableNamesOfField (selections.written record) =
      Argument.variableNames record.arguments ++
        record.child.toList.flatMap fun child =>
          (selections.materialize child).variableNames := by
  unfold written
  cases record.child with
  | none => simp [SelectionSet.variableNamesOfField]
  | some child => simp [SelectionSet.variableNamesOfField]

/-- The references of a set are its own and those of the sets directly below
it. -/
theorem variableNames_set (formed : WellFormed named selections) (id : SetId) :
    (selections.materialize id).variableNames.Perm
      ((selections.set id).variableNames ++
        (selections.set id).children.flatMap fun child =>
        (selections.materialize child).variableNames) := by
  have below :
      ((selections.set id).fields.filterMap (·.child)).flatMap (fun child =>
      (selections.materialize child).variableNames) =
        (selections.set id).fields.flatMap fun record =>
          record.child.toList.flatMap
            fun child => (selections.materialize child).variableNames := by
    rw [List.filterMap_eq_flatMap_toList, List.flatMap_assoc]
  rw [materialize_eq formed, SelectionSet.variableNames,
    SelectionSet.variableNamesOfFields_eq,
    SelectionSet.variableNamesOfFragments_eq,
    List.flatMap_map, List.flatMap_map, SetRecord.children, List.flatMap_append,
    below, List.flatMap_map, ← List.append_assoc]
  simp only [variableNames_written]
  exact (List.flatMap_append_perm _ _ _).symm.append_right _

theorem sets_eq (selections : Selections) :
    selections.sets =
      (List.range selections.sets.length).map selections.set := by
  apply List.ext_getElem
  · simp
  · intro id inside _
    simp [set, inside]

theorem IsForest.range_eq (forest : selections.IsForest) :
    List.range selections.sets.length =
      rootId :: List.range' 1 (selections.sets.length - 1) := by
  obtain ⟨count, same⟩ :=
    Nat.exists_eq_succ_of_ne_zero (Nat.ne_of_gt forest.nonempty)
  simp only [same, List.range_eq_range', List.range'_succ, rootId,
    Nat.succ_eq_add_one, Nat.add_sub_cancel]

/-- What each set has of its own beside what the sets directly below it have
amounts, at the root, to what all sets have of their own.  The sets below others
are cancelled, for each is below one. -/
theorem IsForest.total {α : Type} (forest : selections.IsForest)
    {own all : SetId → List α}
    (each :
      ∀ id,
        (all id).Perm (own id ++ (selections.set id).children.flatMap all)) :
    (all rootId).Perm ((List.range selections.sets.length).flatMap own) := by
  have below : (List.range selections.sets.length).flatMap
      (fun id => (selections.set id).children.flatMap all) =
        selections.children.flatMap all := by
    conv_rhs => rw
      [Selections.children, sets_eq, List.flatMap_map, List.flatMap_assoc]
  have both := calc
    all rootId ++ (List.range' 1 (selections.sets.length - 1)).flatMap all
      = (List.range selections.sets.length).flatMap all := by
        rw [forest.range_eq, List.flatMap_cons]
    List.Perm _ ((List.range selections.sets.length).flatMap fun id =>
        own id ++ (selections.set id).children.flatMap all) :=
      List.Perm.flatMap_left _ fun id _ => each id
    List.Perm _ ((List.range selections.sets.length).flatMap own ++
        selections.children.flatMap all) := by
      rw [← below]
      exact (List.flatMap_append_perm _ _ _).symm
    List.Perm _ ((List.range selections.sets.length).flatMap own ++
        (List.range' 1 (selections.sets.length - 1)).flatMap all) :=
      (forest.children.flatMap_right all).append_left _
  exact (List.perm_append_right_iff _).mp both

theorem variableNames_eq (selections : Selections) :
    selections.variableNames =
      (List.range selections.sets.length).flatMap fun id =>
        (selections.set id).variableNames := by
  conv_lhs => rw [variableNames, sets_eq, List.flatMap_map]

/-- The references of the document are those of all sets of its arena. -/
theorem variableNames_materialize (formed : WellFormed named selections)
    (forest : selections.IsForest) :
    (selections.materialize rootId).variableNames.Perm
      selections.variableNames := by
  rw [variableNames_eq]
  exact forest.total fun id => variableNames_set formed id

/-- What is selected below a set that is reached is selected in the document. -/
theorem ReachesSet.selects (formed : WellFormed named selections)
    {path : List String} {id : SetId} (reached : selections.ReachesSet path id)
    {deeper : List String} {field : FieldSelection}
    (selects : (selections.materialize id).Selects deeper field) :
    (selections.materialize rootId).Selects (path ++ deeper) field := by
  induction reached generalizing deeper with
  | root => exact selects
  | @fragment path id inner typeName _ found induction =>
      have member : (typeName, selections.materialize inner) ∈
          (selections.materialize id).fragments := by
        rw [materialize_eq formed]
        exact List.mem_map_of_mem (Entries.mem_of_lookup? found)
      exact induction (.fragment member selects)
  | @field path id inner record _ member child induction =>
      have outer :
          selections.written record ∈ (selections.materialize id).fields := by
        rw [materialize_eq formed]
        exact List.mem_map_of_mem member
      have below : (selections.written record).selections =
          some (selections.materialize inner) := by
        simp [written, FieldSelection.selections, child]
      rw [List.append_assoc, List.singleton_append,
        ← responseKey_written selections]
      exact induction (.inside outer below selects)

/-- A recorded field is selected at its response path. -/
theorem ReachesSet.selects_record (formed : WellFormed named selections)
    {path : List String} {id : SetId} {record : FieldRecord}
    (reached : selections.ReachesSet path id)
    (member : record ∈ (selections.set id).fields) :
    (selections.materialize rootId).Selects (path ++ [record.key])
      (selections.written record) := by
  apply reached.selects formed
  rw [← responseKey_written selections]
  apply SelectionSet.Selects.here
  rw [materialize_eq formed]
  exact List.mem_map_of_mem member

/-! ### Changes of the arena -/

/-- A change of one element that adds to its part of a list adds it to the
list. -/
private theorem flatMap_modify_perm {α β : Type} {items : List α} {index : Nat}
    {item : α} {change : α → α} {parts : α → List β} {added : List β}
    (found : items[index]? = some item)
    (adds : (parts (change item)).Perm (parts item ++ added)) :
    ((items.modify index change).flatMap parts).Perm
      (items.flatMap parts ++ added) := by
  induction items generalizing index with
  | nil => simp at found
  | cons first items induction =>
      cases index with
      | zero =>
          obtain rfl := Option.some.inj found
          simp only [List.modify_zero_cons, List.flatMap_cons]
          calc
            parts (change first) ++ items.flatMap parts
            List.Perm _ ((parts first ++ added) ++ items.flatMap parts) :=
              adds.append_right _
            List.Perm _ ((parts first ++ items.flatMap parts) ++ added) := by
              rw [List.append_assoc, List.append_assoc]
              exact List.perm_append_comm.append_left _
      | succ index =>
          simp only [List.modify_succ_cons, List.flatMap_cons,
            List.append_assoc]
          exact (induction found).append_left _

theorem set_eq_of_getElem? {id : SetId} {record : SetRecord}
    (found : selections.sets[id]? = some record) :
    selections.set id = record := by
  simp [set, found]

section modifySet

variable {parent : SetId} {change : SetRecord → SetRecord}
  (bound : parent < selections.sets.length)
include bound

theorem children_modifySet {added : List SetId}
    (adds : (change (selections.set parent)).children.Perm
      ((selections.set parent).children ++ added)) :
    (selections.modifySet parent change).children.Perm
      (selections.children ++ added) := by
  have found := List.getElem?_eq_getElem bound
  rw [set_eq_of_getElem? found] at adds
  exact flatMap_modify_perm found adds

theorem variableNames_modifySet {added : List String}
    (adds : (change (selections.set parent)).variableNames.Perm
      ((selections.set parent).variableNames ++ added)) :
    (selections.modifySet parent change).variableNames.Perm
      (selections.variableNames ++ added) := by
  have found := List.getElem?_eq_getElem bound
  rw [set_eq_of_getElem? found] at adds
  exact flatMap_modify_perm found adds

end modifySet

theorem children_pushSet (selections : Selections) (space : KeySpaceId) :
    (selections.pushSet space).2.children = selections.children := by
  simp [children, pushSet, SetRecord.empty, SetRecord.children]

theorem variableNames_pushSet (selections : Selections) (space : KeySpaceId) :
    (selections.pushSet space).2.variableNames = selections.variableNames := by
  simp [variableNames, pushSet, SetRecord.empty, SetRecord.variableNames]

/-- The arena grows by sets that each are below one of its sets. -/
theorem IsForest.grow {after : Selections} (forest : selections.IsForest)
    (added : List SetId)
    (children : after.children.Perm (selections.children ++ added))
    (sets : after.sets.length = selections.sets.length + added.length)
    (fresh : added = List.range' selections.sets.length added.length) :
    after.IsForest := by
  constructor
  · rw [sets]
    exact Nat.lt_of_lt_of_le forest.nonempty (Nat.le_add_right _ _)
  · refine children.trans ((forest.children.append_right added).trans ?_)
    have split : after.sets.length - 1 =
        (selections.sets.length - 1) + added.length := by
      have := forest.nonempty
      omega
    have start : 1 + (selections.sets.length - 1) = selections.sets.length := by
      have := forest.nonempty
      omega
    rw [split, ← List.range'_append_1, start, ← fresh]

section pushField

variable {parent : SetId} {name signature key : String} {type : TypeRef}
  {arguments : List Argument} {space : Option KeySpaceId}

/-- Recording a field adds a set below it, if it has one, to the sets first. -/
theorem pushField_eq (selections : Selections) (parent : SetId)
    (name signature : String) (type : TypeRef) (arguments : List Argument)
    (key : String) (space : Option KeySpaceId) :
    ∃ middle : Selections,
    (selections.pushField parent name signature type arguments key space).2 =
      middle.modifySet parent (fun set => { set with
        fields := set.fields ++
          [selections.newField name signature type arguments key space] }) ∧
    middle.sets.length = selections.sets.length + space.toList.length ∧
      middle.children = selections.children ∧
        middle.variableNames = selections.variableNames := by
  cases space with
  | none => exact ⟨selections, rfl, rfl, rfl, rfl⟩
  | some space =>
      exact ⟨(selections.pushSet space).2, rfl,
        sets_length_pushSet selections space, children_pushSet selections space,
        variableNames_pushSet selections space⟩

theorem pushField_isForest (forest : selections.IsForest)
    (bound : parent < selections.sets.length) :
    (selections.pushField parent name signature type arguments key
      space).2.IsForest := by
  obtain ⟨middle, same, longer, children, _⟩ :=
    pushField_eq selections parent name signature type arguments key space
  have inside : parent < middle.sets.length := by
    rw [longer]
    exact Nat.lt_add_right _ bound
  refine forest.grow (selections.newField name signature type arguments key
    space).child.toList ?_ ?_ ?_
  · rw [same, ← children]
    exact children_modifySet inside (SetRecord.children_addField _ _)
  · rw [same, sets_length_modifySet, longer]
    cases space <;> rfl
  · cases space <;> rfl

theorem pushField_variableNames (bound : parent < selections.sets.length) :
    (selections.pushField parent name signature type arguments key
      space).2.variableNames.Perm
        (selections.variableNames ++ Argument.variableNames arguments) := by
  obtain ⟨middle, same, longer, _, names⟩ :=
    pushField_eq selections parent name signature type arguments key space
  have inside : parent < middle.sets.length := by
    rw [longer]
    exact Nat.lt_add_right _ bound
  rw [same, ← names]
  exact variableNames_modifySet inside
    (List.Perm.of_eq (SetRecord.variableNames_addField _ _))

end pushField

theorem IsForest.of_sameSets {after : Selections} (forest : selections.IsForest)
    (same : after.sets = selections.sets) : after.IsForest := by
  constructor
  · rw [same]
    exact forest.nonempty
  · rw [Selections.children, same]
    exact forest.children

/-- A field is found in the set it is selected in, with nothing changed, or its
arguments are new. -/
theorem field_variableNames (formed : WellFormed named selections)
    (forest : selections.IsForest) {parent : SetId}
    (bound : parent < selections.sets.length)
    {definition : FieldDefinition} {arguments : List Argument}
    {selected : SelectedField} {after : Selections}
    (success :
      selections.field parent definition arguments = .ok (selected, after)) :
    (after = selections ∧
      selections.Holds parent definition arguments selected) ∨
      after.IsForest ∧
        after.variableNames.Perm
          (selections.variableNames ++ Argument.variableNames arguments) ∧
        ∀ {id record},
          record ∈ (after.set id).fields → record ∈ (selections.set id).fields ∨
          record.name = definition.name ∧ record.arguments = arguments := by
  rcases field_cases success with
    ⟨rfl, holds⟩ | ⟨_, key, space, middle, resolution, pushed⟩
  · exact Or.inl ⟨rfl, holds⟩
  · obtain ⟨_, _, sameSets, _⟩ :=
      resolveKey_spec formed (formed.spaceBound parent) resolution
    have middleBound : parent < middle.sets.length := by
      rw [sameSets]
      exact bound
    have sameNames : middle.variableNames = selections.variableNames := by
      rw [variableNames, sameSets, variableNames]
    obtain ⟨rfl, rfl⟩ := Prod.mk.inj pushed
    refine Or.inr ⟨pushField_isForest (forest.of_sameSets sameSets) middleBound,
      ?_, ?_⟩
    · rw [← sameNames]
      exact pushField_variableNames middleBound
    · intro id record member
      rcases mem_fields_pushField middleBound member with old | ⟨_, rfl⟩
      · left
        rw [set, ← sameSets]
        exact old
      · exact Or.inr ⟨rfl, rfl⟩

theorem requireTypename_isForest (forest : selections.IsForest) {parent : SetId}
    (bound : parent < selections.sets.length) :
    (selections.requireTypename parent).IsForest := by
  refine forest.grow [] ?_ (sets_length_modifySet _ _ _) rfl
  exact children_modifySet bound (List.Perm.of_eq (List.append_nil _).symm)

theorem requireTypename_variableNames {parent : SetId}
    (bound : parent < selections.sets.length) :
    (selections.requireTypename parent).variableNames.Perm
      selections.variableNames := by
  have same : (selections.requireTypename parent).variableNames.Perm
      (selections.variableNames ++ []) :=
    variableNames_modifySet bound (List.Perm.of_eq (List.append_nil _).symm)
  rwa [List.append_nil] at same

section addFragment

variable {parent : SetId} {typeName : String}

theorem addFragment_isForest (forest : selections.IsForest)
    (bound : parent < selections.sets.length)
    (absent :
      Entries.lookup? (selections.set parent).fragments typeName = none) :
    (selections.addFragment parent typeName).IsForest := by
  have inside :
      parent <
        (selections.pushSet (selections.set parent).keySpace).2.sets.length :=
    by simpa using Nat.lt_succ_of_lt bound
  refine forest.grow [selections.sets.length] ?_ ?_ ?_
  · rw [← children_pushSet selections (selections.set parent).keySpace]
    refine children_modifySet inside ?_
    rw [set_pushSet, if_neg (Nat.ne_of_lt bound)]
    simp only [SetRecord.children,
      Entries.put_fresh (Entries.lookup?_eq_none_iff.mp absent),
      List.map_append, List.map_cons, List.map_nil, List.append_assoc]
    exact List.Perm.refl _
  · simp [addFragment]
  · simp

theorem addFragment_variableNames (bound : parent < selections.sets.length) :
    (selections.addFragment parent typeName).variableNames.Perm
      selections.variableNames := by
  have inside :
      parent <
        (selections.pushSet (selections.set parent).keySpace).2.sets.length :=
    by simpa using Nat.lt_succ_of_lt bound
  have same : (selections.addFragment parent typeName).variableNames.Perm
      ((selections.pushSet (selections.set parent).keySpace).2.variableNames ++
        []) :=
    variableNames_modifySet inside (List.Perm.of_eq (List.append_nil _).symm)
  rwa [List.append_nil, variableNames_pushSet] at same

end addFragment

/-- A fragment that is selected changes no field and no reference. -/
theorem fragment_variableNames (forest : selections.IsForest) {parent : SetId}
    (bound : parent < selections.sets.length) (typeName : String) :
    (selections.fragment parent typeName).2.IsForest ∧
      (selections.fragment parent typeName).2.variableNames.Perm
        selections.variableNames ∧
        ∀ id, ((selections.fragment parent typeName).2.set id).fields =
          (selections.set id).fields := by
  have required := requireTypename_isForest forest bound
  have names := requireTypename_variableNames bound
  have sameFields : ∀ id, ((selections.requireTypename parent).set id).fields =
      (selections.set id).fields := by
    intro id
    rw [set_requireTypename bound]
    split <;> rfl
  rw [fragment_eq bound]
  cases known : Entries.lookup? (selections.set parent).fragments typeName with
  | some id => exact ⟨required, names, sameFields⟩
  | none =>
      have inside :
          parent < (selections.requireTypename parent).sets.length := by
        simpa [requireTypename] using bound
      have absent : Entries.lookup?
          ((selections.requireTypename parent).set parent).fragments typeName =
            none := by
        rw [set_requireTypename bound, if_pos rfl]
        exact known
      refine ⟨addFragment_isForest required inside absent,
        (addFragment_variableNames inside).trans names, fun id => ?_⟩
      rw [fields_addFragment inside, sameFields]

theorem initial_isForest : initial.IsForest :=
  ⟨Nat.zero_lt_one, List.Perm.nil⟩

theorem fields_initial (id : SetId) : (initial.set id).fields = [] := by
  cases id <;> rfl

end Selections

end GraphPipeline
