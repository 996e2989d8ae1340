import GraphPipeline.Proofs.Compile.Upkeep

/-!
# Numbered keys

Every response key of a document is the name of a field that is selected in it,
or such a name with a number.  The name of the type is asked for by the sets
that have fragments, and by no others: a set that would be written empty asks
for it in its text alone.
-/

namespace GraphPipeline

theorem freeKey_mem (taken : List String) (name : String) :
    freeKey taken name ∈ keyCandidates name taken.length :=
  List.mem_of_find?_eq_some (find?_keyCandidates taken name)

namespace Selections

/-- A key is the name of a field somewhere in the arena, perhaps with a
number. -/
def NumbersField (selections : Selections) (key : String) : Prop :=
  ∃ id record count, record ∈ (selections.set id).fields ∧
    key ∈ keyCandidates record.name count

/-- Response keys are numbered names, and the sets with fragments ask for the
type. -/
structure Arranged (selections : Selections) : Prop where
  numbered : ∀ {space key entry},
    Entries.lookup? (selections.keys space) key = some entry →
      selections.NumbersField key
  typename : ∀ id, (selections.set id).requiresTypename =
    !(selections.set id).fragments.isEmpty

variable {selections : Selections}

theorem NumbersField.grow {after : Selections} {key : String}
    (numbers : selections.NumbersField key) (grows : selections.Grows after) :
    after.NumbersField key := by
  obtain ⟨id, record, count, member, candidate⟩ := numbers
  exact ⟨id, record, count, (grows.fields id).subset member, candidate⟩

/-! ### Fields -/

/-- A key that is there once a field has one was there before, or numbers the
field. -/
theorem resolveKey_numbers {space other : KeySpaceId}
    (bound : space < selections.keySpaces.length) {name signature : String}
    {type : TypeRef} {resolved : String × Option KeySpaceId}
    {after : Selections}
    (resolution :
      selections.resolveKey space name signature type = .ok (resolved, after))
    {key : String} {entry : KeyEntry}
    (found : Entries.lookup? (after.keys other) key = some entry) :
    Entries.lookup? (selections.keys other) key = some entry ∨
      ∃ count, key ∈ keyCandidates name count := by
  unfold resolveKey at resolution
  cases known : selections.keyOf? space signature with
  | some pair =>
      simp only [known] at resolution
      split at resolution
      · cases resolution
        exact Or.inl found
      · cases resolution
  | none =>
      simp only [known, Except.ok.injEq] at resolution
      have sameAfter := congrArg Prod.snd resolution
      simp only at sameAfter
      rw [← sameAfter, keys_takeKey bound] at found
      split at found
      · rename_i same
        by_cases taken :
            freeKey (Entries.keys (selections.keys space)) name = key
        · exact Or.inr ⟨_, taken ▸ freeKey_mem _ name⟩
        · rw [Entries.lookup?_put_other _ _ taken, ← same] at found
          exact Or.inl found
      · exact Or.inl found

theorem requiresTypename_pushField {parent : SetId}
    {name signature key : String} {type : TypeRef} {arguments : List Argument}
    {space : Option KeySpaceId}
    (bound : parent < selections.sets.length) (id : SetId) :
    ((selections.pushField parent name signature type arguments key space).2.set
      id).requiresTypename = (selections.set id).requiresTypename := by
  by_cases same : parent = id
  · subst id
    rw [set_pushField_parent bound]
  · cases space with
    | none => simp [pushField, set_modifySet, same]
    | some space =>
        simp only [pushField, set_modifySet, set_pushSet, same, false_and,
          if_false]
        split
        · rename_i last
          simp [last, set, SetRecord.empty]
        · rfl

theorem Arranged.field {named : String → Prop} (arranged : selections.Arranged)
    (formed : selections.WellFormed named) {parent : SetId}
    (bound : parent < selections.sets.length) {definition : FieldDefinition}
    {arguments : List Argument} {selected : SelectedField} {after : Selections}
    (success :
      selections.field parent definition arguments = .ok (selected, after)) :
    after.Arranged := by
  rcases field_cases success with
    ⟨rfl, _⟩ | ⟨_, key, space, middle, resolution, pushed⟩
  · exact arranged
  · have spaceBound := formed.spaceBound parent
    obtain ⟨_, grows, sameSets, _⟩ :=
      resolveKey_spec formed spaceBound resolution
    have middleBound : parent < middle.sets.length := by
      rw [sameSets]
      exact bound
    have sameSet : ∀ id, middle.set id = selections.set id := by
      intro id
      rw [set, set, sameSets]
    have sameAfter := congrArg Prod.snd pushed
    simp only at sameAfter
    subst sameAfter
    constructor
    · intro other found entry known
      rw [keys_of_keySpaces pushField_keySpaces] at known
      rcases resolveKey_numbers spaceBound resolution known with
        old | ⟨count, candidate⟩
      · exact (arranged.numbered old).grow
          (grows.trans (pushField_grows middleBound))
      · refine ⟨parent, middle.newField definition.name
            (signature definition.name arguments) definition.type arguments key
            space, count, ?_, candidate⟩
        rw [set_pushField_parent middleBound]
        exact List.mem_append_right _ (List.mem_singleton_self _)
    · intro id
      rw [requiresTypename_pushField middleBound,
        fragments_pushField middleBound, sameSet]
      exact arranged.typename id

/-! ### Fragments -/

/-- A change that leaves fields and keys alone keeps them numbered. -/
theorem Arranged.of_sameFields (arranged : selections.Arranged)
    {after : Selections}
    (sameSpaces : after.keySpaces = selections.keySpaces)
    (sameFields : ∀ id, (after.set id).fields = (selections.set id).fields)
    (typename : ∀ id, (after.set id).requiresTypename =
      !(after.set id).fragments.isEmpty) : after.Arranged := by
  refine ⟨?_, typename⟩
  intro space key entry found
  rw [keys_of_keySpaces sameSpaces] at found
  obtain ⟨id, record, count, member, candidate⟩ := arranged.numbered found
  exact ⟨id, record, count, by rwa [sameFields], candidate⟩

theorem Arranged.fragment (arranged : selections.Arranged) {parent : SetId}
    (bound : parent < selections.sets.length) (typeName : String) :
    (selections.fragment parent typeName).2.Arranged := by
  rw [fragment_eq bound]
  cases known : Entries.lookup? (selections.set parent).fragments typeName with
  | some id =>
      refine arranged.of_sameFields rfl ?_ ?_
      · intro id
        rw [set_requireTypename bound]
        split <;> rfl
      · intro id
        rw [set_requireTypename bound]
        split
        · rename_i same
          subst id
          cases fragments : (selections.set parent).fragments with
          | nil => simp [fragments] at known
          | cons fragment fragments => rfl
        · exact arranged.typename id
  | none =>
      have inside :
          parent < (selections.requireTypename parent).sets.length := by
        simpa [requireTypename] using bound
      refine arranged.of_sameFields rfl ?_ ?_
      · intro id
        rw [fields_addFragment inside, set_requireTypename bound]
        split <;> rfl
      · intro id
        by_cases same : parent = id
        · subst id
          have fresh : typeName ∉
              Entries.keys
                ((selections.requireTypename parent).set parent).fragments := by
            rw [set_requireTypename bound, if_pos rfl]
            exact Entries.lookup?_eq_none_iff.mp known
          rw [set_addFragment_parent inside, Entries.put_fresh fresh,
            set_requireTypename bound, if_pos rfl]
          simp
        · by_cases last : id = (selections.requireTypename parent).sets.length
          · subst id
            rw [set_addFragment_new inside]
            rfl
          · rw [set_addFragment_other same last, set_requireTypename bound,
              if_neg same]
            exact arranged.typename id

theorem initial_arranged : initial.Arranged := by
  constructor
  · intro space key entry found
    cases space <;> cases found
  · intro id
    cases id <;> rfl

/-- Every action of a compilation keeps response keys numbered. -/
theorem Arranged.upkeep : Compile.Upkeep (fun _ _ => True) fun _ state =>
    state.selections.Arranged where
  pageInfo := trivial
  hasNextPage := trivial
  endCursor := trivial
  declared {before after cursors name type result} arranged success := by
    rw [(Compile.declare_sameDocument success).1]
    exact arranged
  selected formed arranged bound _ success := by
    obtain ⟨_, selecting, rfl⟩ := Compile.selectIn_eq_ok success
    exact arranged.field formed.selections bound selecting
  paged {before middle after set field arguments written selected result}
      formed arranged bound _ _ declared success := by
    have same := Compile.declare_sameDocument declared
    obtain ⟨_, selecting, rfl⟩ := Compile.selectIn_eq_ok success
    rw [same.1] at selecting
    exact arranged.field formed.selections bound selecting
  narrowed _ arranged bound success := by
    obtain ⟨_, rfl⟩ := Compile.fragmentIn_eq_ok success
    exact arranged.fragment bound _
  pushed {before after initialCursor path keys id} _ arranged _ success := by
    rw [Compile.pushSubquery_sameSelections success]
    exact arranged

end Selections

end GraphPipeline
