import GraphPipeline.Proofs.QueryTexts
import GraphPipeline.Proofs.SelectionCalls

/-!
# The sets of an arena form a tree

The sets of an arena are named by their positions, and the document is made by a
recursion over these names.  Whatever calls an arena comes from, each set but
that of the root is below one field or one fragment of a set before it.  So the
recursion ends on every set, and from the root it comes once to each part of the
arena: to every field that was ever recorded and to every fragment that was ever
added, those of one set in the order in which they were made.
-/

namespace GraphPipeline

namespace Selections

/-- A field that is recorded in a set, or a fragment of a set. -/
inductive Part where
  | field (set : SetId) (record : FieldRecord)
  | fragment (set : SetId) (typeName : String) (child : SetId)

namespace Part

/-- The set that a part is in. -/
def owner : Part → SetId
  | .field set _ => set
  | .fragment set _ _ => set

def fieldOf? (id : SetId) : Part → Option FieldRecord
  | .field set record => if set = id then some record else none
  | .fragment .. => none

def fragmentOf? (id : SetId) : Part → Option (String × SetId)
  | .field .. => none
  | .fragment set typeName child =>
    if set = id then some (typeName, child) else none

/-- The fields of one set among some parts. -/
def fieldsOf (id : SetId) (parts : List Part) : List FieldRecord :=
  parts.filterMap (fieldOf? id)

/-- The fragments of one set among some parts. -/
def fragmentsOf (id : SetId) (parts : List Part) : List (String × SetId) :=
  parts.filterMap (fragmentOf? id)

/-- The parts of one set, its fields before its fragments. -/
def ofSet (id : SetId) (set : SetRecord) : List Part :=
  set.fields.map (.field id) ++ set.fragments.map fun fragment =>
    .fragment id fragment.1 fragment.2

end Part

/-- What selecting a field adds to the arena: a record of it, unless its set has
one. -/
def recorded (selections : Selections) (parent : SetId)
    (definition : FieldDefinition) (arguments : List Argument)
    (selected : SelectedField) : List Part :=
  if signature definition.name arguments ∈
      (selections.set parent).fields.map FieldRecord.signature then []
  else
    [.field parent
      { name := definition.name, key := selected.key,
        signature :=
          signature definition.name arguments, type := definition.type,
        arguments, child := selected.child }]

/-- What selecting a fragment adds to the arena. -/
def added (selections : Selections) (parent : SetId) (typeName : String)
    (child : SetId) :
    List Part :=
  if (Entries.lookup? (selections.set parent).fragments typeName).isSome then []
  else [.fragment parent typeName child]

/-- The arena after any calls on its sets, the first of them on an arena with
the root set alone, and the parts that the calls have made, in their order.  A
call that is refused leaves the arena as it is. -/
inductive Built : List Part → Selections → Prop where
  | fresh : Built [] initial
  | field {parts : List Part} {before after : Selections} {parent : SetId}
      {definition : FieldDefinition} {arguments : List Argument}
        {selected : SelectedField} :
      Built parts before → parent < before.sets.length →
      before.field parent definition arguments = .ok (selected, after) →
      Built (parts ++ before.recorded parent definition arguments selected)
        after
  | refused {parts : List Part} {before : Selections} {parent : SetId}
      {definition : FieldDefinition} {arguments : List Argument}
        {conflict : FieldConflict} :
      Built parts before → parent < before.sets.length →
      before.field parent definition arguments = .error conflict →
        Built parts before
  | fragment {parts : List Part} {before after : Selections}
      {parent child : SetId} {typeName : String} :
      Built parts before → parent < before.sets.length →
      before.fragment parent typeName = (child, after) →
      Built (parts ++ before.added parent typeName child) after

mutual

/-- The recursion that makes the document of a set, with the parts it passes in
their order.  It looks up nothing but sets of the arena, and there is a
derivation only if the recursion ends. -/
inductive Materializes (selections : Selections) :
    SetId → SelectionSet → List Part → Prop where
  | set {id : SetId} {fields : List FieldSelection}
      {fragments : List (String × SelectionSet)}
        {inFields inFragments : List Part} :
      id < selections.sets.length →
      MaterializesFields selections id (selections.set id).fields fields
        inFields →
      MaterializesFragments selections id (selections.set id).fragments
        fragments inFragments →
      Materializes selections id
        (.mk (selections.set id).requiresTypename fields fragments)
        (inFields ++ inFragments)

inductive MaterializesFields (selections : Selections) :
    SetId → List FieldRecord → List FieldSelection → List Part → Prop where
  | nil {id : SetId} : MaterializesFields selections id [] [] []
  | leaf {id : SetId} {record : FieldRecord} {records : List FieldRecord}
      {fields : List FieldSelection} {parts : List Part} :
      record.child = none →
        MaterializesFields selections id records fields parts →
      MaterializesFields selections id (record :: records)
        (.mk record.name
            (if record.key = record.name then none else some record.key)
            record.arguments none :: fields)
        (.field id record :: parts)
  | object {id child : SetId} {record : FieldRecord}
      {records : List FieldRecord} {set : SelectionSet}
      {fields : List FieldSelection} {inside parts : List Part} :
      record.child = some child → Materializes selections child set inside →
      MaterializesFields selections id records fields parts →
      MaterializesFields selections id (record :: records)
        (.mk record.name
            (if record.key = record.name then none else some record.key)
            record.arguments (some set) :: fields)
        (.field id record :: inside ++ parts)

inductive MaterializesFragments (selections : Selections) :
    SetId → Entries SetId → List (String × SelectionSet) → List Part →
      Prop where
  | nil {id : SetId} : MaterializesFragments selections id [] [] []
  | cons {id child : SetId} {typeName : String} {entries : Entries SetId}
      {set : SelectionSet} {fragments : List (String × SelectionSet)}
      {inside parts : List Part} :
      Materializes selections child set inside →
      MaterializesFragments selections id entries fragments parts →
      MaterializesFragments selections id ((typeName, child) :: entries)
        ((typeName, set) :: fragments)
        (.fragment id typeName child :: inside ++ parts)

end

/-! ### The parts of an arena -/

namespace Part

theorem fieldsOf_append (id : SetId) (parts more : List Part) :
    fieldsOf id (parts ++ more) = fieldsOf id parts ++ fieldsOf id more :=
  List.filterMap_append

theorem fragmentsOf_append (id : SetId) (parts more : List Part) :
    fragmentsOf id (parts ++ more) =
      fragmentsOf id parts ++ fragmentsOf id more :=
  List.filterMap_append

theorem fieldsOf_field (id set : SetId) (record : FieldRecord) :
    fieldsOf id [.field set record] = if set = id then [record] else [] := by
  by_cases same : set = id <;> simp [fieldsOf, fieldOf?, same]

theorem fragmentsOf_fragment (id set child : SetId) (typeName : String) :
    fragmentsOf id [.fragment set typeName child] =
      if set = id then [(typeName, child)] else [] := by
  by_cases same : set = id <;> simp [fragmentsOf, fragmentOf?, same]

theorem fieldOf?_eq_some {id : SetId} {part : Part} {record : FieldRecord} :
    fieldOf? id part = some record ↔ part = .field id record := by
  cases part with
  | field set other => simp [fieldOf?]
  | fragment => simp [fieldOf?]

theorem fragmentOf?_eq_some {id : SetId} {part : Part}
    {fragment : String × SetId} :
    fragmentOf? id part = some fragment ↔
      part = .fragment id fragment.1 fragment.2 := by
  obtain ⟨typeName, child⟩ := fragment
  cases part with
  | field => simp [fragmentOf?]
  | fragment set other inner => simp [fragmentOf?]

theorem mem_fieldsOf {id : SetId} {parts : List Part} {record : FieldRecord} :
    record ∈ fieldsOf id parts ↔ .field id record ∈ parts := by
  simp [fieldsOf, fieldOf?_eq_some]

theorem mem_fragmentsOf {id : SetId} {parts : List Part}
    {fragment : String × SetId} :
    fragment ∈ fragmentsOf id parts ↔
      .fragment id fragment.1 fragment.2 ∈ parts := by
  simp [fragmentsOf, fragmentOf?_eq_some]

theorem nodup_fieldsOf {parts : List Part} (distinct : parts.Nodup)
    (id : SetId) :
    (fieldsOf id parts).Nodup :=
  distinct.filterMap fun _ _ _ first second =>
    (fieldOf?_eq_some.mp first).trans (fieldOf?_eq_some.mp second).symm

theorem nodup_fragmentsOf {parts : List Part} (distinct : parts.Nodup)
    (id : SetId) :
    (fragmentsOf id parts).Nodup :=
  distinct.filterMap fun _ _ _ first second =>
    (fragmentOf?_eq_some.mp first).trans (fragmentOf?_eq_some.mp second).symm

end Part

variable {parts : List Part} {selections : Selections}

section pushField

variable {parent : SetId} {name signature key : String} {type : TypeRef}
  {arguments : List Argument} {space : Option KeySpaceId}

theorem fields_pushField (bound : parent < selections.sets.length)
    (id : SetId) :
    ((selections.pushField parent name signature type arguments key space).2.set
      id).fields =
      (selections.set id).fields ++ Part.fieldsOf id
        [.field parent
          (selections.newField name signature type arguments key space)] := by
  rw [Part.fieldsOf_field]
  rcases set_pushField_cases bound id with
    ⟨here, same⟩ | ⟨last, _, _, same⟩ | ⟨other, same⟩
  · rw [same, if_pos here.symm]
  · have other : parent ≠ id := Nat.ne_of_lt (last ▸ bound)
    rw [same, if_neg other, set_beyond (Nat.le_of_eq last.symm)]
    rfl
  · rw [same, if_neg (Ne.symm other), List.append_nil]

end pushField

/-- A selected field adds its record to one set at most. -/
theorem recorded_eq {named : String → Prop}
    (formed : selections.WellFormed named)
    {parent : SetId} (bound : parent < selections.sets.length)
    {definition : FieldDefinition} {arguments : List Argument}
    {selected : SelectedField} {after : Selections}
    (success :
      selections.field parent definition arguments = .ok (selected, after))
    (id : SetId) :
    (after.set id).fields = (selections.set id).fields ++
        Part.fieldsOf id
          (selections.recorded parent definition arguments selected) ∧
      (after.set id).fragments = (selections.set id).fragments := by
  rcases field_cases success with
    ⟨rfl, record, member, signed, _⟩
      | ⟨unselected, key, space, middle, resolution, pushed⟩
  · have known : signature definition.name arguments ∈
        (after.set parent).fields.map FieldRecord.signature :=
      signed ▸ List.mem_map_of_mem member
    rw [recorded, if_pos known]
    exact ⟨(List.append_nil _).symm, rfl⟩
  · obtain ⟨_, _, sameSets, _⟩ :=
      resolveKey_spec formed (formed.spaceBound parent) resolution
    have sameSet : middle.set = selections.set := by
      funext id
      rw [set, sameSets, set]
    have middleBound : parent < middle.sets.length := by
      rw [sameSets]
      exact bound
    obtain rfl : selected = _ := (congrArg Prod.fst pushed).trans pushField_fst
    obtain rfl : after = _ := congrArg Prod.snd pushed
    rw [recorded, if_neg unselected, ← sameSet, fields_pushField middleBound,
      fragments_pushField middleBound]
    exact ⟨rfl, rfl⟩

theorem fragments_addFragment {parent : SetId}
    (bound : parent < selections.sets.length)
    {typeName : String}
    (absent : Entries.lookup? (selections.set parent).fragments typeName = none)
    (id : SetId) :
    ((selections.addFragment parent typeName).set id).fragments =
      (selections.set id).fragments ++ Part.fragmentsOf id
        [.fragment parent typeName selections.sets.length] := by
  rw [Part.fragmentsOf_fragment]
  by_cases same : parent = id
  · subst id
    rw [set_addFragment_parent bound, if_pos rfl]
    exact Entries.put_fresh (Entries.lookup?_eq_none_iff.mp absent)
  · rw [if_neg same, List.append_nil]
    by_cases last : id = selections.sets.length
    · subst id
      rw [set_addFragment_new bound]
      simp [set, SetRecord.empty]
    · rw [set_addFragment_other same last]

/-- A selected fragment is added to one set at most. -/
theorem added_eq (forest : selections.IsForest) {parent child : SetId}
    (bound : parent < selections.sets.length) {typeName : String}
    {after : Selections}
    (success : selections.fragment parent typeName = (child, after))
    (id : SetId) :
    (after.set id).fields = (selections.set id).fields ∧
      (after.set id).fragments = (selections.set id).fragments ++
        Part.fragmentsOf id (selections.added parent typeName child) := by
  obtain rfl : (selections.fragment parent typeName).2 = after :=
    congrArg Prod.snd success
  refine ⟨(fragment_variableNames forest bound typeName).2.2 id, ?_⟩
  have sameFragments :
      ∀ id, ((selections.requireTypename parent).set id).fragments =
        (selections.set id).fragments := by
    intro id
    rw [set_requireTypename bound]
    split <;> rfl
  rw [fragment_eq bound] at success ⊢
  unfold added
  cases known : Entries.lookup? (selections.set parent).fragments typeName with
  | some found => simpa [Part.fragmentsOf] using sameFragments id
  | none =>
      simp only [known, Prod.mk.injEq] at success
      have sameLength : (selections.requireTypename parent).sets.length =
          selections.sets.length := by
        simp [requireTypename]
      have inside :
          parent < (selections.requireTypename parent).sets.length := by
        rw [sameLength]
        exact bound
      have absent : Entries.lookup?
          ((selections.requireTypename parent).set parent).fragments typeName =
            none := by
        rw [sameFragments]
        exact known
      rw [fragments_addFragment inside absent, sameFragments, sameLength,
        success.1]
      rfl

theorem fragmentsOf_recorded (id parent : SetId) (definition : FieldDefinition)
    (arguments : List Argument) (selected : SelectedField) :
    Part.fragmentsOf id
        (selections.recorded parent definition arguments selected) = [] := by
  unfold recorded
  split <;> rfl

theorem fieldsOf_added (id parent child : SetId) (typeName : String) :
    Part.fieldsOf id (selections.added parent typeName child) = [] := by
  unfold added
  split <;> rfl

/-- What an arena holds of the calls that it comes from. -/
structure Keeps (parts : List Part) (selections : Selections) : Prop where
  formed : selections.WellFormed fun _ => True
  forest : selections.IsForest
  fields : ∀ id, (selections.set id).fields = Part.fieldsOf id parts
  fragments : ∀ id, (selections.set id).fragments = Part.fragmentsOf id parts
  distinct : parts.Nodup

theorem Keeps.nodup_recorded (keeps : Keeps parts selections) (parent : SetId)
    (definition : FieldDefinition) (arguments : List Argument)
    (selected : SelectedField) :
    (parts ++
      selections.recorded parent definition arguments selected).Nodup := by
  unfold recorded
  split
  case isTrue => rw [List.append_nil]; exact keeps.distinct
  case isFalse unselected =>
    rw [← List.concat_eq_append]
    refine List.Nodup.concat (fun member => unselected ?_) keeps.distinct
    rw [keeps.fields]
    exact List.mem_map.mpr ⟨_, Part.mem_fieldsOf.mpr member, rfl⟩

theorem Keeps.nodup_added (keeps : Keeps parts selections)
    (parent child : SetId) (typeName : String) :
    (parts ++ selections.added parent typeName child).Nodup := by
  unfold added
  split
  case isTrue => rw [List.append_nil]; exact keeps.distinct
  case isFalse absent =>
    rw [← List.concat_eq_append]
    refine List.Nodup.concat (fun member => absent ?_) keeps.distinct
    have known : (typeName, child) ∈ (selections.set parent).fragments := by
      rw [keeps.fragments]
      exact Part.mem_fragmentsOf.mpr member
    rw [← Entries.contains_eq_isSome]
    exact List.any_eq_true.mpr ⟨_, known, beq_self_eq_true typeName⟩

theorem Built.keeps (built : Built parts selections) :
    Keeps parts selections := by
  induction built with
  | fresh =>
      exact
        { formed := initial_wellFormed _
          forest := initial_isForest
          fields := fields_initial
          fragments := fun id => by cases id <;> rfl
          distinct := List.nodup_nil }
  | field _ bound success keeps =>
      have sets := recorded_eq keeps.formed bound success
      have forest :=
        (field_variableNames keeps.formed keeps.forest bound success).elim
          (fun same => same.1 ▸ keeps.forest) And.left
      exact
        { formed := (field_spec keeps.formed bound trivial success).1
          forest
          fields := fun id => by
            rw [(sets id).1, keeps.fields, Part.fieldsOf_append]
          fragments := fun id => by
            rw [(sets id).2, keeps.fragments, Part.fragmentsOf_append,
              fragmentsOf_recorded, List.append_nil]
          distinct := keeps.nodup_recorded _ _ _ _ }
  | refused _ _ _ keeps => exact keeps
  | fragment _ bound success keeps =>
      have sets := added_eq keeps.forest bound success
      obtain rfl := congrArg Prod.snd success
      exact
        { formed := (fragment_spec keeps.formed bound success).1
          forest := (fragment_variableNames keeps.forest bound _).1
          fields := fun id => by
            rw [(sets id).1, keeps.fields, Part.fieldsOf_append, fieldsOf_added,
              List.append_nil]
          fragments := fun id => by
            rw [(sets id).2, keeps.fragments, Part.fragmentsOf_append]
          distinct := keeps.nodup_added _ _ _ }

/-! ### The recursion over the sets -/

variable {named : String → Prop}

theorem exists_materializesFields (id : SetId) {records : List FieldRecord}
    (below : ∀ record ∈ records, ∀ child, record.child = some child →
      ∃ passed,
        Materializes selections child (selections.materialize child) passed) :
    ∃ passed, MaterializesFields selections id records
      (records.map selections.written) passed := by
  induction records with
  | nil => exact ⟨[], .nil⟩
  | cons record records induction =>
      obtain ⟨later, rest⟩ := induction fun record member =>
        below record (List.mem_cons_of_mem _ member)
      cases child : record.child with
      | none =>
          refine ⟨.field id record :: later, ?_⟩
          rw [List.map_cons, written, child]
          exact .leaf child rest
      | some set =>
          obtain ⟨inside, first⟩ := below record List.mem_cons_self set child
          refine ⟨.field id record :: inside ++ later, ?_⟩
          rw [List.map_cons, written, child]
          exact .object child first rest

theorem exists_materializesFragments (id : SetId) {entries : Entries SetId}
    (below : ∀ entry ∈ entries,
      ∃ passed,
        Materializes selections entry.2 (selections.materialize entry.2)
          passed) :
    ∃ passed, MaterializesFragments selections id entries
      (entries.map fun entry => (entry.1, selections.materialize entry.2))
        passed := by
  induction entries with
  | nil => exact ⟨[], .nil⟩
  | cons entry entries induction =>
      obtain ⟨later, rest⟩ := induction fun entry member =>
        below entry (List.mem_cons_of_mem _ member)
      obtain ⟨inside, first⟩ := below entry List.mem_cons_self
      exact ⟨.fragment id entry.1 entry.2 :: inside ++ later, .cons first rest⟩

/-- The recursion ends on every set of an arena, for the sets below a set come
after it. -/
theorem exists_materializes (formed : selections.WellFormed named) {id : SetId}
    (inside : id < selections.sets.length) :
    ∃ passed,
      Materializes selections id (selections.materialize id) passed := by
  have below : ∀ child, id < child ∧ child < selections.sets.length →
      ∃ passed,
        Materializes selections child (selections.materialize child) passed :=
    fun child after => exists_materializes formed after.2
  obtain ⟨inFields, fields⟩ :=
    exists_materializesFields id fun record member child same =>
    below child (formed.childAfter member same)
  obtain ⟨inFragments, fragments⟩ :=
    exists_materializesFragments id fun entry member =>
    below entry.2 (formed.fragmentAfter member)
  rw [materialize_eq formed]
  exact ⟨_, .set inside fields fragments⟩
termination_by selections.sets.length - id
decreasing_by exact Nat.sub_lt_sub_left inside after.1

theorem Materializes.lt {id : SetId} {document : SelectionSet}
    {passed : List Part} :
    Materializes selections id document passed → id < selections.sets.length
  | .set inside _ _ => inside

mutual

/-- The recursion has one result. -/
theorem Materializes.unique {id : SetId} {document other : SelectionSet}
    {passed others : List Part} :
    Materializes selections id document passed →
      Materializes selections id other others →
      document = other ∧ passed = others
  | .set _ fields fragments, .set _ otherFields otherFragments => by
      obtain ⟨rfl, rfl⟩ := fields.unique otherFields
      obtain ⟨rfl, rfl⟩ := fragments.unique otherFragments
      exact ⟨rfl, rfl⟩

theorem MaterializesFields.unique {id : SetId} {records : List FieldRecord}
    {fields others : List FieldSelection} {passed later : List Part} :
    MaterializesFields selections id records fields passed →
      MaterializesFields selections id records others later →
        fields = others ∧ passed = later
  | .nil, .nil => ⟨rfl, rfl⟩
  | .leaf _ rest, .leaf _ otherRest => by
      obtain ⟨rfl, rfl⟩ := rest.unique otherRest
      exact ⟨rfl, rfl⟩
  | .leaf child _, .object otherChild _ _ => by
      rw [child] at otherChild
      cases otherChild
  | .object child _ _, .leaf otherChild _ => by
      rw [child] at otherChild
      cases otherChild
  | .object child first rest, .object otherChild otherFirst otherRest => by
      obtain rfl := Option.some.inj (child.symm.trans otherChild)
      obtain ⟨rfl, rfl⟩ := first.unique otherFirst
      obtain ⟨rfl, rfl⟩ := rest.unique otherRest
      exact ⟨rfl, rfl⟩

theorem MaterializesFragments.unique {id : SetId} {entries : Entries SetId}
    {fragments others : List (String × SelectionSet)}
    {passed later : List Part} :
    MaterializesFragments selections id entries fragments passed →
      MaterializesFragments selections id entries others later →
        fragments = others ∧ passed = later
  | .nil, .nil => ⟨rfl, rfl⟩
  | .cons first rest, .cons otherFirst otherRest => by
      obtain ⟨rfl, rfl⟩ := first.unique otherFirst
      obtain ⟨rfl, rfl⟩ := rest.unique otherRest
      exact ⟨rfl, rfl⟩

end

/-! ### What the recursion passes -/

section Passed

variable {passedOf : SetId → List Part}
  (below :
    ∀ {child document passed}, Materializes selections child document passed →
      passed = passedOf child)
include below

theorem MaterializesFields.perm {id : SetId} {records : List FieldRecord}
    {fields : List FieldSelection} {passed : List Part} :
    MaterializesFields selections id records fields passed →
      passed.Perm (records.map (.field id) ++
        (records.filterMap (·.child)).flatMap passedOf)
  | .nil => .nil
  | .leaf child rest => by
      rw [List.filterMap_cons_none child, List.map_cons, List.cons_append]
      exact rest.perm.cons _
  | .object child first rest => by
      rw [List.filterMap_cons_some child, List.flatMap_cons, ← below first,
        List.map_cons]
      exact List.Perm.cons _
        ((rest.perm.append_left _).trans (List.perm_append_comm_assoc _ _ _))

theorem MaterializesFragments.perm {id : SetId} {entries : Entries SetId}
    {fragments : List (String × SelectionSet)} {passed : List Part} :
    MaterializesFragments selections id entries fragments passed →
      passed.Perm (entries.map (fun entry => .fragment id entry.1 entry.2) ++
        (entries.map (·.2)).flatMap passedOf)
  | .nil => .nil
  | .cons first rest => by
      rw [List.map_cons, List.map_cons, List.flatMap_cons, ← below first]
      exact List.Perm.cons _
        ((rest.perm.append_left _).trans (List.perm_append_comm_assoc _ _ _))

/-- The recursion passes the parts of a set and what it passes below the set. -/
theorem Materializes.perm {id : SetId} {document : SelectionSet}
    {passed : List Part} :
    Materializes selections id document passed →
      passed.Perm (Part.ofSet id (selections.set id) ++
        (selections.set id).children.flatMap passedOf)
  | .set _ fields fragments => by
      refine ((fields.perm below).append (fragments.perm below)).trans ?_
      rw [Part.ofSet, SetRecord.children, List.flatMap_append,
        List.append_assoc, List.append_assoc]
      exact (List.perm_append_comm_assoc _ _ _).append_left _

end Passed

/-! The parts of a set are passed in their order, for each of the lists below is
a sublist of what is passed at the set above. -/

theorem MaterializesFields.own {id : SetId} {records : List FieldRecord}
    {fields : List FieldSelection} {passed : List Part} :
    MaterializesFields selections id records fields passed →
      (records.map (Part.field id)).Sublist passed
  | .nil => .slnil
  | .leaf _ rest => rest.own.cons_cons _
  | .object _ _ rest =>
    (rest.own.trans (List.sublist_append_right _ _)).cons_cons _

theorem MaterializesFragments.own {id : SetId} {entries : Entries SetId}
    {fragments : List (String × SelectionSet)} {passed : List Part} :
    MaterializesFragments selections id entries fragments passed →
      (entries.map fun entry => Part.fragment id entry.1 entry.2).Sublist passed
  | .nil => .slnil
  | .cons _ rest => (rest.own.trans (List.sublist_append_right _ _)).cons_cons _

theorem Materializes.own {id : SetId} {document : SelectionSet}
    {passed : List Part} :
    Materializes selections id document passed →
      (Part.ofSet id (selections.set id)).Sublist passed
  | .set _ fields fragments => fields.own.append fragments.own

theorem MaterializesFields.exists_below {id child : SetId}
    {records : List FieldRecord} {fields : List FieldSelection}
    {passed : List Part}
    (member : child ∈ records.filterMap (·.child)) :
    MaterializesFields selections id records fields passed →
      ∃ document inside, Materializes selections child document inside ∧
        inside.Sublist passed
  | .nil => by cases member
  | .leaf none_below rest => by
      rw [List.filterMap_cons_none none_below] at member
      obtain ⟨document, inside, made, sublist⟩ := rest.exists_below member
      exact ⟨document, inside, made, sublist.cons _⟩
  | .object some_below first rest => by
      rw [List.filterMap_cons_some some_below] at member
      rcases List.mem_cons.mp member with rfl | member
      · exact ⟨_, _, first, (List.sublist_append_left _ _).cons _⟩
      · obtain ⟨document, inside, made, sublist⟩ := rest.exists_below member
        exact ⟨document, inside, made,
          (sublist.trans (List.sublist_append_right _ _)).cons _⟩

theorem MaterializesFragments.exists_below {id child : SetId}
    {entries : Entries SetId} {fragments : List (String × SelectionSet)}
    {passed : List Part}
    (member : child ∈ entries.map (·.2)) :
    MaterializesFragments selections id entries fragments passed →
      ∃ document inside, Materializes selections child document inside ∧
        inside.Sublist passed
  | .nil => by cases member
  | .cons first rest => by
      rcases List.mem_cons.mp member with rfl | member
      · exact ⟨_, _, first, (List.sublist_append_left _ _).cons _⟩
      · obtain ⟨document, inside, made, sublist⟩ := rest.exists_below member
        exact ⟨document, inside, made,
          (sublist.trans (List.sublist_append_right _ _)).cons _⟩

theorem Materializes.exists_below {id child : SetId} {document : SelectionSet}
    {passed : List Part}
    (member : child ∈ (selections.set id).children) :
    Materializes selections id document passed →
      ∃ inner inside,
        Materializes selections child inner inside ∧ inside.Sublist passed
  | .set _ fields fragments => by
      rcases List.mem_append.mp member with inField | inFragment
      · obtain ⟨inner, inside, made, sublist⟩ := fields.exists_below inField
        exact ⟨inner, inside, made,
          sublist.trans (List.sublist_append_left _ _)⟩
      · obtain ⟨inner, inside, made, sublist⟩ :=
          fragments.exists_below inFragment
        exact ⟨inner, inside, made,
          sublist.trans (List.sublist_append_right _ _)⟩

/-- From the root the recursion comes to every set. -/
theorem Materializes.reaches (forest : selections.IsForest)
    (formed : selections.WellFormed named) {document : SelectionSet}
    {passed : List Part}
    (made : Materializes selections rootId document passed) {id : SetId}
    (inside : id < selections.sets.length) :
    ∃ inner within,
      Materializes selections id inner within ∧ within.Sublist passed := by
  induction id using Nat.strong_induction_on with
  | h id induction =>
      by_cases root : id = rootId
      · subst id
        exact ⟨document, passed, made, List.Sublist.refl _⟩
      · obtain ⟨parent, child⟩ := forest.exists_parent inside root
        have after := (formed.child_after child).1
        obtain ⟨_, _, above, outer⟩ :=
          induction parent after (Nat.lt_trans after inside)
        obtain ⟨inner, within, made, sublist⟩ := above.exists_below child
        exact ⟨inner, within, made, sublist.trans outer⟩

/-! ### Each part once -/

theorem Part.fieldsOf_ofSet (id : SetId) (set : SetRecord) :
    fieldsOf id (ofSet id set) = set.fields := by
  simp [fieldsOf, ofSet, List.filterMap_map, Function.comp_def, fieldOf?]

theorem Part.fragmentsOf_ofSet (id : SetId) (set : SetRecord) :
    fragmentsOf id (ofSet id set) = set.fragments := by
  simp [fragmentsOf, ofSet, List.filterMap_map, Function.comp_def, fragmentOf?]

namespace Keeps

variable (keeps : Keeps parts selections)
include keeps

theorem mem_ofSet {id : SetId} {part : Part} :
    part ∈ Part.ofSet id (selections.set id) ↔
      part ∈ parts ∧ part.owner = id := by
  rw [Part.ofSet, keeps.fields, keeps.fragments, List.mem_append, List.mem_map,
    List.mem_map]
  constructor
  · rintro (⟨record, member, rfl⟩ | ⟨fragment, member, rfl⟩)
    · exact ⟨Part.mem_fieldsOf.mp member, rfl⟩
    · exact ⟨Part.mem_fragmentsOf.mp member, rfl⟩
  · rintro ⟨member, rfl⟩
    cases part with
    | field set record => exact .inl ⟨record, Part.mem_fieldsOf.mpr member, rfl⟩
    | fragment set typeName child =>
        exact .inr ⟨(typeName, child), Part.mem_fragmentsOf.mpr member, rfl⟩

theorem owner_lt {part : Part} (member : part ∈ parts) :
    part.owner < selections.sets.length := by
  by_contra outside
  have listed := keeps.mem_ofSet.mpr ⟨member, rfl⟩
  simp [set, List.getElem?_eq_none (Nat.le_of_not_lt outside), Part.ofSet,
    SetRecord.empty] at listed

theorem nodup_ofSet (id : SetId) :
    (Part.ofSet id (selections.set id)).Nodup := by
  have fields := Part.nodup_fieldsOf keeps.distinct id
  have fragments := Part.nodup_fragmentsOf keeps.distinct id
  rw [Part.ofSet, keeps.fields, keeps.fragments]
  refine List.Nodup.append (fields.map ?_) (fragments.map ?_) ?_
  · intro first second same
    injection same
  · intro first second same
    injection same with _ sameName sameChild
    exact Prod.ext sameName sameChild
  · intro part inFields inFragments
    obtain ⟨_, _, rfl⟩ := List.mem_map.mp inFields
    obtain ⟨_, _, same⟩ := List.mem_map.mp inFragments
    cases same

/-- The parts that were made are the parts of the sets. -/
theorem perm_ofSet :
    parts.Perm ((List.range selections.sets.length).flatMap fun id =>
      Part.ofSet id (selections.set id)) := by
  have all : ((List.range selections.sets.length).flatMap fun id =>
      Part.ofSet id (selections.set id)).Nodup := by
    refine List.nodup_flatMap.mpr ⟨fun id _ => keeps.nodup_ofSet id, ?_⟩
    refine List.nodup_range.imp
      fun different part inFirst inSecond => different ?_
    rw [← (keeps.mem_ofSet.mp inFirst).2, ← (keeps.mem_ofSet.mp inSecond).2]
  refine (List.perm_ext_iff_of_nodup keeps.distinct all).mpr fun part => ?_
  simp only [List.mem_flatMap, List.mem_range, keeps.mem_ofSet]
  exact ⟨fun member => ⟨part.owner, keeps.owner_lt member, member, rfl⟩,
    fun ⟨_, _, member, _⟩ => member⟩

/-- What the recursion passes from the root are the parts that were made. -/
theorem passed_perm {document : SelectionSet} {passed : List Part}
    (made : Materializes selections rootId document passed) :
    passed.Perm parts := by
  have each : ∀ id, ∃ passed, (id < selections.sets.length →
      Materializes selections id (selections.materialize id) passed) ∧
        (¬ id < selections.sets.length → passed = []) := by
    intro id
    by_cases inside : id < selections.sets.length
    · obtain ⟨passed, made⟩ := exists_materializes keeps.formed inside
      exact ⟨passed, fun _ => made, fun outside => absurd inside outside⟩
    · exact ⟨[], fun known => absurd known inside, fun _ => rfl⟩
  choose passedOf within outside using each
  have below :
      ∀ {child document passed}, Materializes selections child document passed →
        passed = passedOf child :=
          fun made => (made.unique (within _ made.lt)).2
  rw [below made]
  refine (keeps.forest.total fun id => ?_).trans keeps.perm_ofSet.symm
  by_cases inside : id < selections.sets.length
  · exact (within id inside).perm below
  · rw [outside id inside]
    simp [set, List.getElem?_eq_none (Nat.le_of_not_lt inside), Part.ofSet,
      SetRecord.empty, SetRecord.children]

/-- The parts of each set are passed in the order in which they were made. -/
theorem passed_order {document : SelectionSet} {passed : List Part}
    (made : Materializes selections rootId document passed) (id : SetId) :
    Part.fieldsOf id passed = Part.fieldsOf id parts ∧
      Part.fragmentsOf id passed = Part.fragmentsOf id parts := by
  have all := keeps.passed_perm made
  have own : (Part.ofSet id (selections.set id)).Sublist passed := by
    by_cases inside : id < selections.sets.length
    · obtain ⟨_, _, below, sublist⟩ :=
        made.reaches keeps.forest keeps.formed inside
      exact below.own.trans sublist
    · simp [set, List.getElem?_eq_none (Nat.le_of_not_lt inside), Part.ofSet,
        SetRecord.empty]
  -- As many parts of the set are passed as it has, so the sublist of them is
  -- the whole.
  have fields := own.filterMap (Part.fieldOf? id)
  have fragments := own.filterMap (Part.fragmentOf? id)
  rw [← Part.fieldsOf, ← Part.fieldsOf, Part.fieldsOf_ofSet,
    keeps.fields] at fields
  rw [← Part.fragmentsOf, ← Part.fragmentsOf, Part.fragmentsOf_ofSet,
    keeps.fragments] at fragments
  exact ⟨(fields.eq_of_length (all.filterMap _).length_eq.symm).symm,
    (fragments.eq_of_length (all.filterMap _).length_eq.symm).symm⟩

end Keeps

/-- An arena as the tree of the parts that calls have made. -/
structure TreeOf (parts : List Part) (selections : Selections) : Prop where
  /-- A set that is not that of the root is below one field or fragment. -/
  once :
    ∀ id, id ≠ rootId → id < selections.sets.length →
      selections.children.count id = 1
  /-- The sets below a set come after it. -/
  after : ∀ id, ∀ child ∈ (selections.set id).children,
    id < child ∧ child < selections.sets.length
  /-- No part was made twice, and each is in one set. -/
  distinct : parts.Nodup
  divided : parts.Perm ((List.range selections.sets.length).flatMap fun id =>
    Part.ofSet id (selections.set id))
  /-- A set has its parts in the order in which they were made. -/
  fields : ∀ id, (selections.set id).fields = Part.fieldsOf id parts
  fragments : ∀ id, (selections.set id).fragments = Part.fragmentsOf id parts
  /-- The recursion ends on every set, with the document of the set. -/
  ends : ∀ id < selections.sets.length, ∃ passed,
    Materializes selections id (selections.materialize id) passed ∧
      ∀ document others, Materializes selections id document others →
        document = selections.materialize id ∧ others = passed
  /-- From the root it passes every part once, those of a set in their order. -/
  passed : ∀ document passed, Materializes selections rootId document passed →
    passed.Perm parts ∧
      ∀ id, Part.fieldsOf id passed = (selections.set id).fields ∧
      Part.fragmentsOf id passed = (selections.set id).fragments

theorem IsForest.count_children (forest : selections.IsForest) {id : SetId}
    (below : id ≠ rootId) (inside : id < selections.sets.length) :
    selections.children.count id = 1 := by
  rw [forest.children.count_eq]
  refine List.count_eq_one_of_mem List.nodup_range' ?_
  rw [List.mem_range'_1, Nat.add_sub_of_le forest.nonempty]
  exact ⟨Nat.pos_of_ne_zero below, inside⟩

/-- Whatever calls an arena comes from, it is the tree of the parts they have
made. -/
theorem Built.treeOf (built : Built parts selections) :
    TreeOf parts selections where
  once _ below inside := built.keeps.forest.count_children below inside
  after _ _ below := built.keeps.formed.child_after below
  distinct := built.keeps.distinct
  divided := built.keeps.perm_ofSet
  fields := built.keeps.fields
  fragments := built.keeps.fragments
  ends _ inside := by
    obtain ⟨passed, made⟩ := exists_materializes built.keeps.formed inside
    exact ⟨passed, made, fun _ _ other => other.unique made⟩
  passed _ _ made := by
    refine ⟨built.keeps.passed_perm made, fun id => ?_⟩
    rw [built.keeps.fields, built.keeps.fragments]
    exact built.keeps.passed_order made id

end Selections

namespace Sample

open Selections

/-- The parts that are made by two selections of one field, and by the first of
them once more in a fragment. -/
def issueParts : List Part :=
  let openIssues : FieldRecord :=
    ⟨"issues", "issues", "issues(state: OPEN)", issues.type, inState "OPEN",
     some 1⟩
  [.field rootId openIssues,
    .field rootId ⟨"issues", "issues1", "issues(state: CLOSED)", issues.type,
      inState "CLOSED", some 2⟩,
    .fragment rootId "Query" 3,
    .field 3 { openIssues with child := some 4 },
    .field 4 ⟨"title", "title", "title", title.type, [], none⟩]

theorem issueParts_built : Built issueParts openTitles := by
  have opened : initial.field rootId issues (inState "OPEN") =
      .ok (⟨"issues", some 1⟩, openSelection) := by rfl
  have closed : openSelection.field rootId issues (inState "CLOSED") =
      .ok (⟨"issues1", some 2⟩, allIssues) := by rfl
  have typed : allIssues.fragment rootId "Query" = (3, issuesOfQueries) := by
    rfl
  have again : issuesOfQueries.field 3 issues (inState "OPEN") =
      .ok (⟨"issues", some 4⟩, openSelectionAgain) := by rfl
  have titled :
      openSelectionAgain.field 4 title [] =
        .ok (⟨"title", none⟩, openTitles) := by
    rfl
  exact Built.fresh.field (by decide) opened
    |>.field (by decide) closed |>.fragment (by decide) typed
    |>.field (by decide) again |>.field (by decide) titled

end Sample

theorem issueParts_treeOf :
    Selections.Built Sample.issueParts Sample.openTitles ∧
      Selections.TreeOf Sample.issueParts Sample.openTitles :=
  ⟨Sample.issueParts_built, Sample.issueParts_built.treeOf⟩

end GraphPipeline
