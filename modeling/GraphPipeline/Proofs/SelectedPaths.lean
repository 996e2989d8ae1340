import GraphPipeline.Proofs.Fitting

/-!
# Selected paths

The response keys on the way to each field of a document, and how they grow with
the arena the document is made from.  The sets of an arena form a tree, so a
field that is selected in a set adds the one path that leads to it.
-/

namespace GraphPipeline

namespace SelectionSet

mutual

/-- The response keys on the way to each field of a set.  Fragments add no
key. -/
def pathsFrom (start : List String) : SelectionSet → List (List String)
  | .mk _ fields fragments =>
      pathsOfFields start fields ++ pathsOfFragments start fragments

def pathsOfFields (start : List String) :
    List FieldSelection → List (List String)
  | [] => []
  | field :: fields => pathsOfField start field ++ pathsOfFields start fields

def pathsOfField (start : List String) : FieldSelection → List (List String)
  | .mk name responseAlias _ none => [start ++ [responseAlias.getD name]]
  | .mk name responseAlias _ (some selections) =>
      (start ++ [responseAlias.getD name]) ::
        pathsFrom (start ++ [responseAlias.getD name]) selections

def pathsOfFragments (start : List String) :
    List (String × SelectionSet) → List (List String)
  | [] => []
  | (_, selections) :: fragments =>
      pathsFrom start selections ++ pathsOfFragments start fragments

end

/-- The paths of all fields of the selections on the root object. -/
def paths (selections : SelectionSet) : List (List String) :=
  selections.pathsFrom []

theorem mem_pathsOfFields {start path : List String}
    {fields : List FieldSelection} :
    path ∈ pathsOfFields start fields ↔
      ∃ field ∈ fields, path ∈ pathsOfField start field := by
  induction fields with
  | nil => simp [pathsOfFields]
  | cons field fields induction => simp [pathsOfFields, induction]

theorem mem_pathsOfFragments {start path : List String}
    {fragments : List (String × SelectionSet)} :
    path ∈ pathsOfFragments start fragments ↔
      ∃ fragment ∈ fragments, path ∈ fragment.2.pathsFrom start := by
  induction fragments with
  | nil => simp [pathsOfFragments]
  | cons fragment fragments induction => simp [pathsOfFragments, induction]

theorem mem_pathsOfField_erase {start path : List String} {field : TypedField} :
    path ∈ pathsOfField start (TypedSet.eraseField field) ↔
      path = start ++ [field.key] ∨ ∃ below, field.selections = some below ∧
        path ∈ below.erase.pathsFrom (start ++ [field.key]) := by
  obtain ⟨name, key, type, arguments, selections⟩ := field
  have sameKey : (if key = name then none else some key).getD name = key := by
    split
    · rename_i same
      exact same.symm
    · rfl
  cases selections with
  | none =>
      simp [TypedSet.eraseField, pathsOfField, sameKey, TypedField.key,
        TypedField.selections]
  | some below =>
      simp [TypedSet.eraseField, pathsOfField, sameKey, TypedField.key,
        TypedField.selections]

end SelectionSet

namespace Selections

variable {named : String → Prop} {selections : Selections}

/-- A field is selected under a response path. -/
def FieldAt (selections : Selections) (path : List String) : Prop :=
  ∃ parent id record, selections.ReachesSet parent id ∧
    record ∈ (selections.set id).fields ∧ path = parent ++ [record.key]

/-- Every set is reached by one path and has one fragment for a type. -/
structure IsTree (selections : Selections) : Prop where
  onePath : ∀ {id first second}, selections.ReachesSet first id →
    selections.ReachesSet second id → first = second
  oneFragment : ∀ id, (Entries.keys (selections.set id).fragments).Nodup

/-- The fields of an arena are those of an earlier one and some more. -/
structure Adds (before after : Selections) (added : List (List String)) :
    Prop where
  tree : after.IsTree
  fieldAt : ∀ path, after.FieldAt path ↔ before.FieldAt path ∨ path ∈ added

theorem Adds.refl (tree : selections.IsTree) : Adds selections selections [] :=
  ⟨tree, fun path => by simp⟩

theorem Adds.trans {first second third : Selections}
    {early late : List (List String)}
    (adds : Adds first second early) (more : Adds second third late) :
    Adds first third (early ++ late) := by
  constructor
  · exact more.tree
  · intro path
    rw [more.fieldAt, adds.fieldAt, List.mem_append, or_assoc]

/-! ### The fields of the written document -/

theorem mem_paths_materialize (formed : WellFormed named selections)
    {id : SetId} {start path : List String} :
    path ∈ (selections.materialize id).pathsFrom start ↔
      (∃ record ∈ (selections.set id).fields, path = start ++ [record.key] ∨
        ∃ child, record.child = some child ∧
          path ∈
            (selections.materialize child).pathsFrom (start ++ [record.key])) ∨
      ∃ fragment ∈ (selections.set id).fragments,
        path ∈ (selections.materialize fragment.2).pathsFrom start := by
  rw [← erase_typed, typed_eq formed]
  simp only [TypedSet.erase, TypedSet.eraseFields_eq_map,
    TypedSet.eraseFragments_eq_map, SelectionSet.pathsFrom, List.mem_append,
    SelectionSet.mem_pathsOfFields, SelectionSet.mem_pathsOfFragments,
    List.map_map, List.mem_map, Function.comp, exists_exists_and_eq_and,
    SelectionSet.mem_pathsOfField_erase, typedField, TypedField.key,
    TypedField.selections, Option.map_eq_some_iff, erase_typed]

/-- The fields of a document below a set are selected below it. -/
theorem fieldAt_of_mem_paths (formed : WellFormed named selections)
    (tree : selections.IsTree) {id : SetId} {start path : List String}
    (reached : selections.ReachesSet start id)
    (member : path ∈ (selections.materialize id).pathsFrom start) :
    selections.FieldAt path := by
  rcases (mem_paths_materialize formed).mp member with
    ⟨record, inside, rfl | ⟨child, below, deeper⟩⟩ | ⟨fragment, inside, deeper⟩
  · exact ⟨start, id, record, reached, inside, rfl⟩
  · obtain ⟨later, inArena⟩ := formed.childAfter inside below
    exact fieldAt_of_mem_paths formed tree (reached.field inside below) deeper
  · obtain ⟨later, inArena⟩ := formed.fragmentAfter inside
    have found := Entries.lookup?_of_mem (tree.oneFragment id) inside
    exact fieldAt_of_mem_paths formed tree (reached.fragment found) deeper
termination_by selections.sets.length - id
decreasing_by
  · exact Nat.sub_lt_sub_left (Nat.lt_trans later inArena) later
  · exact Nat.sub_lt_sub_left (Nat.lt_trans later inArena) later

theorem ReachesSet.paths_subset (formed : WellFormed named selections)
    {path : List String} {id : SetId}
    (reached : selections.ReachesSet path id) :
    ∀ deeper ∈ (selections.materialize id).pathsFrom path,
      deeper ∈ (selections.materialize rootId).paths := by
  induction reached with
  | root =>
      intro deeper member
      exact member
  | fragment _ found induction =>
      intro deeper member
      apply induction
      apply (mem_paths_materialize formed).mpr
      exact Or.inr ⟨_, Entries.mem_of_lookup? found, member⟩
  | field _ inside below induction =>
      intro deeper member
      apply induction
      apply (mem_paths_materialize formed).mpr
      exact Or.inl ⟨_, inside, Or.inr ⟨_, below, member⟩⟩

/-- The written document has the fields that are selected in its arena. -/
theorem mem_paths_iff (formed : WellFormed named selections)
    (tree : selections.IsTree)
    {path : List String} :
    path ∈ (selections.materialize rootId).paths ↔ selections.FieldAt path := by
  constructor
  · exact fieldAt_of_mem_paths formed tree .root
  · rintro ⟨parent, id, record, reached, inside, rfl⟩
    apply reached.paths_subset formed
    apply (mem_paths_materialize formed).mpr
    exact Or.inl ⟨record, inside, Or.inl rfl⟩

/-! ### Changes of the arena -/

theorem ReachesSet.grow {before after : Selections} (grows : before.Grows after)
    {path : List String} {id : SetId} (reached : before.ReachesSet path id) :
    after.ReachesSet path id := by
  induction reached with
  | root => exact .root
  | fragment _ found induction =>
    exact .fragment induction (grows.fragments found)
  | field _ member child induction =>
      exact .field induction ((grows.fields _).subset member) child

/-- A set that is reached is a set of the arena. -/
theorem ReachesSet.lt (formed : WellFormed named selections)
    (nonempty : 0 < selections.sets.length) {path : List String} {id : SetId}
    (reached : selections.ReachesSet path id) :
    id < selections.sets.length := by
  cases reached with
  | root => exact nonempty
  | fragment _ found => exact fragment_lt formed found
  | field _ member child => exact (formed.childAfter member child).2

section same

variable {before after : Selections}
  (sameFields : ∀ id, (after.set id).fields = (before.set id).fields)
  (sameFragments : ∀ id, (after.set id).fragments = (before.set id).fragments)
include sameFields sameFragments

theorem reachesSet_of_same {path : List String} {id : SetId}
    (reached : after.ReachesSet path id) : before.ReachesSet path id := by
  induction reached with
  | root => exact .root
  | fragment _ found induction =>
      rw [sameFragments] at found
      exact .fragment induction found
  | field _ member child induction =>
      rw [sameFields] at member
      exact .field induction member child

/-- A change that leaves fields and fragments alone adds no path. -/
theorem adds_of_same (tree : before.IsTree) : Adds before after [] := by
  have back :
      ∀ {path id}, after.ReachesSet path id → before.ReachesSet path id :=
    reachesSet_of_same sameFields sameFragments
  have forth :
      ∀ {path id}, before.ReachesSet path id → after.ReachesSet path id :=
    reachesSet_of_same (fun id => (sameFields id).symm)
      fun id => (sameFragments id).symm
  constructor
  · constructor
    · intro id first second one other
      exact tree.onePath (back one) (back other)
    · intro id
      rw [sameFragments]
      exact tree.oneFragment id
  · intro path
    simp only [List.not_mem_nil, or_false]
    constructor
    · rintro ⟨parent, id, record, reached, member, rfl⟩
      rw [sameFields] at member
      exact ⟨parent, id, record, back reached, member, rfl⟩
    · rintro ⟨parent, id, record, reached, member, rfl⟩
      rw [← sameFields] at member
      exact ⟨parent, id, record, forth reached, member, rfl⟩

end same

/-- The sets of an arena once a new set is attached to one of its sets: the new
set is reached by the path of that set and the keys added to it. -/
def Attaches (before after : Selections) (parent : SetId) (keys : List String) :
    Prop :=
  ∀ {path id}, after.ReachesSet path id → before.ReachesSet path id ∨
    id = before.sets.length ∧
      ∃ start, before.ReachesSet start parent ∧ path = start ++ keys

theorem Attaches.onePath {before after : Selections} {parent : SetId}
    {keys : List String}
    (attaches : Attaches before after parent keys)
    (formed : WellFormed named before) (nonempty : 0 < before.sets.length)
    (tree : before.IsTree) {id : SetId}
    {first second : List String} (one : after.ReachesSet first id)
    (other : after.ReachesSet second id) : first = second := by
  rcases attaches one with old | ⟨isNew, start, reached, rfl⟩
  · rcases attaches other with otherOld | ⟨isNew, _, _, _⟩
    · exact tree.onePath old otherOld
    · exact absurd isNew (Nat.ne_of_lt (old.lt formed nonempty))
  · rcases attaches other with old | ⟨_, otherStart, otherReached, rfl⟩
    · exact absurd isNew (Nat.ne_of_lt (old.lt formed nonempty))
    · rw [tree.onePath reached otherReached]

section pushField

variable {parent : SetId} {name signature key : String} {type : TypeRef}
  {arguments : List Argument} {space : Option KeySpaceId}

theorem pushField_attaches (formed : WellFormed named selections)
    (bound : parent < selections.sets.length) :
    Attaches selections
      (selections.pushField parent name signature type arguments key space).2
        parent
      [key] := by
  intro path id reached
  induction reached with
  | root => exact Or.inl .root
  | @fragment path id inner typeName _ found induction =>
      rw [fragments_pushField bound] at found
      rcases induction with old | ⟨rfl, _⟩
      · exact Or.inl (.fragment old found)
      · exact absurd (fragment_lt formed found)
          (Nat.not_lt_of_lt
            (formed.fragmentAfter (Entries.mem_of_lookup? found)).1)
  | @field path id inner record _ member child induction =>
      rcases mem_fields_pushField bound member with old | ⟨rfl, rfl⟩
      · rcases induction with reached | ⟨rfl, _⟩
        · exact Or.inl (.field reached old child)
        · exact absurd (lt_of_mem_fields old) (Nat.lt_irrefl _)
      · rcases induction with reached | ⟨rfl, _⟩
        · refine Or.inr ⟨?_, path, reached, rfl⟩
          cases space with
          | none => simp [newField] at child
          | some space => simpa [newField] using child.symm
        · exact absurd bound (Nat.lt_irrefl _)

/-- A field that is recorded in a set adds the path to it. -/
theorem pushField_adds (formed : WellFormed named selections)
    (tree : selections.IsTree) (bound : parent < selections.sets.length)
    {start : List String}
    (reached : selections.ReachesSet start parent) :
    Adds selections
      (selections.pushField parent name signature type arguments key space).2
      [start ++ [key]] := by
  have attaches : Attaches selections
      (selections.pushField parent name signature type arguments key space).2
        parent [key] := pushField_attaches formed bound
  have grows : Grows selections
      (selections.pushField parent name signature type arguments key space).2 :=
    pushField_grows bound
  constructor
  · constructor
    · intro id first second one other
      exact attaches.onePath formed (Nat.zero_lt_of_lt bound) tree one other
    · intro id
      rw [fragments_pushField bound]
      exact tree.oneFragment id
  · intro path
    rw [List.mem_singleton]
    constructor
    · rintro ⟨above, id, record, reachedAbove, member, rfl⟩
      rcases mem_fields_pushField bound member with old | ⟨rfl, rfl⟩
      · rcases attaches reachedAbove with oldReached | ⟨rfl, _⟩
        · exact Or.inl ⟨above, id, record, oldReached, old, rfl⟩
        · exact absurd (lt_of_mem_fields old) (Nat.lt_irrefl _)
      · rcases attaches reachedAbove with oldReached | ⟨rfl, _⟩
        · rw [tree.onePath oldReached reached]
          exact Or.inr rfl
        · exact absurd bound (Nat.lt_irrefl _)
    · rintro (⟨above, id, record, oldReached, member, rfl⟩ | rfl)
      · exact ⟨above, id, record, oldReached.grow grows,
          (grows.fields id).subset member, rfl⟩
      · refine ⟨start, parent,
          selections.newField name signature type arguments key space,
          reached.grow grows, ?_, rfl⟩
        rw [set_pushField_parent bound]
        exact List.mem_append_right _ (List.mem_singleton_self _)

end pushField

/-- Selecting a field in a set leaves the path to it selected, and adds no
other. -/
theorem field_adds (formed : WellFormed named selections)
    (tree : selections.IsTree)
    {parent : SetId} (bound : parent < selections.sets.length)
    {start : List String}
    (reached : selections.ReachesSet start parent)
    {definition : FieldDefinition} {arguments : List Argument}
    {selected : SelectedField} {after : Selections}
    (success :
      selections.field parent definition arguments = .ok (selected, after)) :
    Adds selections after [start ++ [selected.key]] := by
  rcases field_cases success with
    ⟨rfl, record, member, _, _, rfl⟩
      | ⟨_, key, space, middle, resolution, pushed⟩
  · constructor
    · exact tree
    · intro path
      rw [List.mem_singleton]
      constructor
      · exact Or.inl
      · rintro (old | rfl)
        · exact old
        · exact ⟨start, parent, record, reached, member, rfl⟩
  · obtain ⟨middleFormed, grows, sameSets, _⟩ :=
      resolveKey_spec formed (formed.spaceBound parent) resolution
    have sameSet : ∀ id, middle.set id = selections.set id := by
      intro id
      simp only [set, sameSets]
    have resolving : Adds selections middle [] :=
      adds_of_same (fun id => by rw [sameSet]) (fun id => by rw [sameSet]) tree
    have sameKey : selected.key = key := by
      have sameSelected := congrArg Prod.fst pushed
      rw [pushField_fst] at sameSelected
      exact congrArg SelectedField.key sameSelected
    have sameAfter := congrArg Prod.snd pushed
    simp only at sameAfter
    subst sameAfter
    have middleBound : parent < middle.sets.length := by
      rw [sameSets]
      exact bound
    rw [sameKey]
    exact resolving.trans
      (pushField_adds middleFormed resolving.tree middleBound
        (reached.grow grows))

section addFragment

variable {parent : SetId} {typeName : String}

theorem addFragment_attaches (formed : WellFormed named selections)
    (bound : parent < selections.sets.length) :
    Attaches selections (selections.addFragment parent typeName) parent [] := by
  intro path id reached
  induction reached with
  | root => exact Or.inl .root
  | @fragment path id inner name _ found induction =>
      by_cases same : parent = id
      · subst id
        rcases induction with old | ⟨rfl, _⟩
        · rw [set_addFragment_parent bound] at found
          by_cases sameName : typeName = name
          · subst name
            rw [Entries.lookup?_put_same] at found
            exact Or.inr ⟨(Option.some.inj found).symm, path, old,
              (List.append_nil _).symm⟩
          · rw [Entries.lookup?_put_other _ _ sameName] at found
            exact Or.inl (.fragment old found)
        · exact absurd bound (Nat.lt_irrefl _)
      · rcases induction with old | ⟨rfl, _⟩
        · have inside := old.lt formed (Nat.zero_lt_of_lt bound)
          rw [set_addFragment_other same (Nat.ne_of_lt inside)] at found
          exact Or.inl (.fragment old found)
        · rw [set_addFragment_new bound] at found
          simp [SetRecord.empty, Entries.lookup?] at found
  | @field path id inner record _ member child induction =>
      rw [fields_addFragment bound] at member
      rcases induction with old | ⟨rfl, _⟩
      · exact Or.inl (.field old member child)
      · exact absurd (lt_of_mem_fields member) (Nat.lt_irrefl _)

/-- A new fragment has no fields yet. -/
theorem addFragment_adds (formed : WellFormed named selections)
    (tree : selections.IsTree) (bound : parent < selections.sets.length)
    (absent :
      Entries.lookup? (selections.set parent).fragments typeName = none) :
    Adds selections (selections.addFragment parent typeName) [] := by
  have attaches :
      Attaches selections (selections.addFragment parent typeName) parent [] :=
    addFragment_attaches formed bound
  have grows := addFragment_grows bound absent
  constructor
  · constructor
    · intro id first second one other
      exact attaches.onePath formed (Nat.zero_lt_of_lt bound) tree one other
    · intro id
      by_cases same : parent = id
      · subst id
        have fresh := Entries.lookup?_eq_none_iff.mp absent
        rw [set_addFragment_parent bound, Entries.keys_put_fresh fresh]
        apply List.nodup_append.mpr
        refine ⟨tree.oneFragment parent, List.nodup_singleton _, ?_⟩
        intro old oldMember new newMember equality
        rw [List.mem_singleton.mp newMember] at equality
        subst old
        exact fresh oldMember
      · by_cases last : id = selections.sets.length
        · subst id
          rw [set_addFragment_new bound]
          exact List.nodup_nil
        · rw [set_addFragment_other same last]
          exact tree.oneFragment id
  · intro path
    simp only [List.not_mem_nil, or_false]
    constructor
    · rintro ⟨start, id, record, reached, member, rfl⟩
      rw [fields_addFragment bound] at member
      rcases attaches reached with old | ⟨rfl, _⟩
      · exact ⟨start, id, record, old, member, rfl⟩
      · exact absurd (lt_of_mem_fields member) (Nat.lt_irrefl _)
    · rintro ⟨start, id, record, reached, member, rfl⟩
      exact ⟨start, id, record, reached.grow grows,
        (grows.fields id).subset member, rfl⟩

end addFragment

/-- Selecting a fragment adds no path. -/
theorem fragment_adds (formed : WellFormed named selections)
    (tree : selections.IsTree)
    {parent : SetId} (bound : parent < selections.sets.length)
    {typeName : String} {id : SetId} {after : Selections}
    (success : selections.fragment parent typeName = (id, after)) :
    Adds selections after [] := by
  have required := requireTypename_wellFormed formed bound
  have requiring : Adds selections (selections.requireTypename parent) [] := by
    apply adds_of_same _ _ tree
    · intro id
      rw [set_requireTypename bound]
      split <;> rfl
    · intro id
      rw [set_requireTypename bound]
      split <;> rfl
  rw [fragment_eq bound] at success
  cases known : Entries.lookup? (selections.set parent).fragments typeName with
  | some old =>
      simp only [known, Prod.mk.injEq] at success
      obtain ⟨_, rfl⟩ := success
      exact requiring
  | none =>
      simp only [known, Prod.mk.injEq] at success
      obtain ⟨_, rfl⟩ := success
      have inside :
          parent < (selections.requireTypename parent).sets.length := by
        simpa [requireTypename] using bound
      have absent : Entries.lookup?
          ((selections.requireTypename parent).set parent).fragments typeName =
            none := by
        rw [set_requireTypename bound, if_pos rfl]
        exact known
      exact requiring.trans
        (addFragment_adds required requiring.tree inside absent)

theorem initial_isTree : IsTree initial := by
  have rootOnly : ∀ {path id}, initial.ReachesSet path id → path = [] := by
    intro path id reached
    cases reached with
    | root => rfl
    | @fragment _ id _ _ _ found => cases id <;> cases found
    | @field _ id _ _ _ member _ => cases id <;> cases member
  constructor
  · intro id first second one other
    rw [rootOnly one, rootOnly other]
  · intro id
    cases id <;> exact List.nodup_nil

theorem not_fieldAt_initial (path : List String) : ¬ initial.FieldAt path := by
  rintro ⟨_, id, _, _, member, _⟩
  cases id <;> cases member

end Selections

end GraphPipeline
