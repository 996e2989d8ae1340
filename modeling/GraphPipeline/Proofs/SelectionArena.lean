import GraphPipeline.Proofs.ResponseKeys

/-!
# The selection arena

`WellFormed` relates the sets of an arena to its key spaces: every recorded
field has the signature, the type and the child key space its response key
stands for, and every set below another comes later in the arena.  Selecting a
field or a fragment keeps this, and only ever adds to what is there (`Grows`).
-/

namespace GraphPipeline

/-- A recorded field is what its response key stands for. -/
structure FieldRecord.Matches (selections : Selections) (record : FieldRecord)
    (entry : KeyEntry) : Prop where
  signature : entry.signature = record.signature
  type : entry.type = record.type
  child :
    entry.child = record.child.map fun set => (selections.set set).keySpace

namespace Selections

/-- The invariant of an arena, all names in which satisfy a predicate. -/
structure WellFormed (named : String → Prop) (selections : Selections) :
    Prop where
  spaceBound : ∀ id, (selections.set id).keySpace < selections.keySpaces.length
  keysDistinct : ∀ space, (Entries.keys (selections.keys space)).Nodup
  childSpaceBound : ∀ {space key entry child},
    Entries.lookup? (selections.keys space) key = some entry →
      entry.child = some child → child < selections.keySpaces.length
  composite : ∀ {space key entry},
    Entries.lookup? (selections.keys space) key = some entry →
      entry.child.isSome = entry.type.kind.isComposite
  recorded : ∀ {id record}, record ∈ (selections.set id).fields →
    ∃ entry,
      Entries.lookup? (selections.keys (selections.set id).keySpace)
        record.key =
      some entry ∧ record.Matches selections entry
  signed : ∀ {id record}, record ∈ (selections.set id).fields →
    record.signature = signature record.name record.arguments
  nameOf :
    ∀ {id record}, record ∈ (selections.set id).fields → named record.name
  distinct : ∀ id, ((selections.set id).fields.map FieldRecord.signature).Nodup
  childAfter : ∀ {id record child}, record ∈ (selections.set id).fields →
    record.child = some child → id < child ∧ child < selections.sets.length
  fragmentAfter : ∀ {id fragment}, fragment ∈ (selections.set id).fragments →
    id < fragment.2 ∧ fragment.2 < selections.sets.length
  fragmentSpace : ∀ {id fragment}, fragment ∈ (selections.set id).fragments →
    (selections.set fragment.2).keySpace = (selections.set id).keySpace

/-- What is selected in an arena is selected in the same way in a later one. -/
structure Grows (before after : Selections) : Prop where
  sets : before.sets.length ≤ after.sets.length
  keySpace : ∀ {id}, id < before.sets.length →
    (after.set id).keySpace = (before.set id).keySpace
  fields : ∀ id, (before.set id).fields <+: (after.set id).fields
  fragments : ∀ {id typeName set},
    Entries.lookup? (before.set id).fragments typeName = some set →
      Entries.lookup? (after.set id).fragments typeName = some set
  typename : ∀ {id}, (before.set id).requiresTypename = true →
    (after.set id).requiresTypename = true
  keys :
    ∀ {space key entry}, Entries.lookup? (before.keys space) key = some entry →
      Entries.lookup? (after.keys space) key = some entry

theorem Grows.refl (selections : Selections) : Grows selections selections where
  sets := Nat.le_refl _
  keySpace := fun _ => rfl
  fields := fun _ => List.prefix_rfl
  fragments := fun found => found
  typename := fun required => required
  keys := fun found => found

theorem Grows.trans {first second third : Selections}
    (early : Grows first second) (late : Grows second third) :
    Grows first third where
  sets := Nat.le_trans early.sets late.sets
  keySpace := by
    intro id bound
    rw [late.keySpace (Nat.lt_of_lt_of_le bound early.sets),
      early.keySpace bound]
  fields := fun id => (early.fields id).trans (late.fields id)
  fragments := fun found => late.fragments (early.fragments found)
  typename := fun required => late.typename (early.typename required)
  keys := fun found => late.keys (early.keys found)

/-- A set that holds a field or a fragment is a set of the arena. -/
theorem lt_of_mem_fields {selections : Selections} {id : SetId}
    {record : FieldRecord}
    (member : record ∈ (selections.set id).fields) :
    id < selections.sets.length := by
  by_contra outside
  have missing : selections.sets[id]? = none :=
    List.getElem?_eq_none (Nat.le_of_not_lt outside)
  simp [set, missing, SetRecord.empty] at member

/-- There are no selections outside of the arena. -/
theorem set_beyond {selections : Selections} {id : SetId}
    (beyond : selections.sets.length ≤ id) :
    selections.set id = SetRecord.empty 0 := by
  rw [set, List.getElem?_eq_none beyond, Option.getD_none]

/-- A recorded field is what its key stands for as long as the sets keep their
key spaces. -/
theorem matches_of_sameSpace {named : String → Prop} {before after : Selections}
    (wellFormed : WellFormed named before)
    (sameSpace : ∀ {id}, id < before.sets.length →
      (after.set id).keySpace = (before.set id).keySpace)
    {id : SetId} {record : FieldRecord} {entry : KeyEntry}
    (member : record ∈ (before.set id).fields)
    (agrees : record.Matches before entry) :
    record.Matches after entry := by
  refine ⟨agrees.signature, agrees.type, ?_⟩
  rw [agrees.child]
  cases child : record.child with
  | none => rfl
  | some set =>
      simp only [Option.map_some,
        sameSpace (wellFormed.childAfter member child).2]

/-! ### The parts of a selection -/

theorem set_modifySet (selections : Selections) (parent : SetId)
    (change : SetRecord → SetRecord) (id : SetId) :
    (selections.modifySet parent change).set id =
      if parent = id ∧ id < selections.sets.length then
        change (selections.set id)
      else selections.set id := by
  simp only [set, modifySet, List.getElem?_modify]
  by_cases same : parent = id
  · subst id
    by_cases bound : parent < selections.sets.length
    · simp [bound]
    · simp [bound]
  · simp [same]

@[simp] theorem sets_length_modifySet (selections : Selections) (parent : SetId)
    (change : SetRecord → SetRecord) :
    (selections.modifySet parent change).sets.length =
      selections.sets.length := by
  simp [modifySet]

theorem set_pushSet (selections : Selections) (space : KeySpaceId)
    (id : SetId) :
    (selections.pushSet space).2.set id =
      if id = selections.sets.length then SetRecord.empty space
      else selections.set id := by
  simp only [set, pushSet]
  rcases Nat.lt_trichotomy id selections.sets.length with below | equal | above
  · simp [List.getElem?_append_left below, Nat.ne_of_lt below]
  · simp [equal]
  · have outside :
        (selections.sets ++ [SetRecord.empty space])[id]? = none := by
      apply List.getElem?_eq_none
      simp
      omega
    simp [outside, Nat.ne_of_gt above,
      List.getElem?_eq_none (Nat.le_of_lt above)]

@[simp] theorem sets_length_pushSet (selections : Selections)
    (space : KeySpaceId) :
    (selections.pushSet space).2.sets.length = selections.sets.length + 1 := by
  simp [pushSet]

@[simp] theorem pushSet_fst (selections : Selections) (space : KeySpaceId) :
    (selections.pushSet space).1 = selections.sets.length := rfl

theorem keys_of_keySpaces {left right : Selections}
    (same : left.keySpaces = right.keySpaces) (space : KeySpaceId) :
    left.keys space = right.keys space := by
  simp only [keys, same]

/-! ### Taking a response key -/

theorem grows_of_keys {before after : Selections}
    (sameSets : after.sets = before.sets)
    (kept :
      ∀ {space key entry},
        Entries.lookup? (before.keys space) key = some entry →
        Entries.lookup? (after.keys space) key = some entry) :
    Grows before after := by
  have sameSet : ∀ id, after.set id = before.set id := by
    intro id
    simp only [set, sameSets]
  constructor
  · rw [sameSets]
  · intro id _
    rw [sameSet]
  · intro id
    rw [sameSet]
  · intro id typeName set found
    rw [sameSet]
    exact found
  · intro id required
    rw [sameSet]
    exact required
  · exact kept

/-- The entry made for a new response key. -/
def newEntry (selections : Selections) (signature : String) (type : TypeRef) :
    KeyEntry :=
  { signature
    type
    child :=
      if type.kind.isComposite then some selections.keySpaces.length else none }

theorem takeKey_fst (selections : Selections) (space : KeySpaceId)
    (name signature : String) (type : TypeRef) :
    (selections.takeKey space name signature type).1 =
      (freeKey (Entries.keys (selections.keys space)) name,
        (selections.newEntry signature type).child) := by
  unfold takeKey newEntry
  cases type.kind.isComposite <;> rfl

theorem takeKey_sets (selections : Selections) (space : KeySpaceId)
    (name signature : String) (type : TypeRef) :
    (selections.takeKey space name signature type).2.sets =
      selections.sets := by
  unfold takeKey
  cases type.kind.isComposite <;> rfl

private theorem keySpaces_takeKey (selections : Selections) (space : KeySpaceId)
    (name signature : String) (type : TypeRef) :
    (selections.takeKey space name signature type).2.keySpaces =
      (selections.keySpaces ++
        if type.kind.isComposite then [[]] else []).modify space
          (Entries.put · (freeKey (Entries.keys (selections.keys space)) name)
            (selections.newEntry signature type)) := by
  unfold takeKey newEntry
  cases type.kind.isComposite <;> simp [pushKeySpace]

theorem keySpaces_length_takeKey (selections : Selections) (space : KeySpaceId)
    (name signature : String) (type : TypeRef) :
    (selections.takeKey space name signature type).2.keySpaces.length =
      selections.keySpaces.length + if type.kind.isComposite then 1 else 0 := by
  rw [keySpaces_takeKey]
  cases type.kind.isComposite <;> simp

theorem keys_takeKey {selections : Selections} {space : KeySpaceId}
    (bound : space < selections.keySpaces.length) (name signature : String)
    (type : TypeRef) (other : KeySpaceId) :
    (selections.takeKey space name signature type).2.keys other =
      if other = space then
        Entries.put (selections.keys space)
          (freeKey (Entries.keys (selections.keys space)) name)
          (selections.newEntry signature type)
      else selections.keys other := by
  simp only [keys, keySpaces_takeKey, List.getElem?_modify]
  have padded : (selections.keySpaces ++
      (if type.kind.isComposite then [[]] else []))[other]?.getD [] =
        selections.keySpaces[other]?.getD [] := by
    rcases Nat.lt_or_ge other selections.keySpaces.length with below | above
    · rw [List.getElem?_append_left below]
    · rw [List.getElem?_append_right above, List.getElem?_eq_none above]
      cases type.kind.isComposite
      · simp
      · cases other - selections.keySpaces.length <;> simp
  by_cases same : other = space
  · subst other
    have present : ∃ entries, selections.keySpaces[space]? = some entries :=
      ⟨_, List.getElem?_eq_getElem bound⟩
    obtain ⟨entries, found⟩ := present
    simp [List.getElem?_append_left bound, found]
  · have different : ¬ space = other := fun equality => same equality.symm
    simp only [if_neg same, if_neg different, id_map']
    exact padded

/-- The key taken for a field is new, and stands for the field from now on. -/
theorem takeKey_entry {selections : Selections} {space : KeySpaceId}
    (bound : space < selections.keySpaces.length) (name signature : String)
    (type : TypeRef) :
    Entries.lookup?
      ((selections.takeKey space name signature type).2.keys space)
        (selections.takeKey space name signature type).1.1 =
      some (selections.newEntry signature type) := by
  rw [keys_takeKey bound, if_pos rfl, takeKey_fst]
  exact Entries.lookup?_put_same _ _ _

theorem takeKey_grows {selections : Selections} {space : KeySpaceId}
    (bound : space < selections.keySpaces.length) (name signature : String)
    (type : TypeRef) :
    Grows selections (selections.takeKey space name signature type).2 := by
  apply grows_of_keys (takeKey_sets selections space name signature type)
  intro other key entry found
  rw [keys_takeKey bound]
  by_cases same : other = space
  · subst other
    rw [if_pos rfl]
    exact Entries.lookup?_put_fresh (freeKey_notMem _ name) found
  · rw [if_neg same]
    exact found

theorem takeKey_lookup_cases {selections : Selections} {space : KeySpaceId}
    (bound : space < selections.keySpaces.length) {name signature : String}
    {type : TypeRef} {other : KeySpaceId} {key : String} {entry : KeyEntry}
    (found : Entries.lookup?
      ((selections.takeKey space name signature type).2.keys other) key =
        some entry) :
    entry = selections.newEntry signature type ∨
      Entries.lookup? (selections.keys other) key = some entry := by
  rw [keys_takeKey bound] at found
  by_cases same : other = space
  · subst other
    rw [if_pos rfl] at found
    by_cases sameKey : freeKey (Entries.keys (selections.keys space)) name = key
    · rw [sameKey, Entries.lookup?_put_same] at found
      exact Or.inl (Option.some.inj found).symm
    · rw [Entries.lookup?_put_other _ _ sameKey] at found
      exact Or.inr found
  · rw [if_neg same] at found
    exact Or.inr found

theorem takeKey_wellFormed {named : String → Prop} {selections : Selections}
    (wellFormed : WellFormed named selections) {space : KeySpaceId}
    (bound : space < selections.keySpaces.length) (name signature : String)
    (type : TypeRef) :
    WellFormed named (selections.takeKey space name signature type).2 := by
  have sameSet : ∀ id, (selections.takeKey space name signature type).2.set id =
      selections.set id := by
    intro id
    simp only [set, takeKey_sets]
  have longer : selections.keySpaces.length ≤
      (selections.takeKey space name signature type).2.keySpaces.length := by
    rw [keySpaces_length_takeKey]
    exact Nat.le_add_right _ _
  constructor
  case spaceBound =>
    intro id
    rw [sameSet]
    exact Nat.lt_of_lt_of_le (wellFormed.spaceBound id) longer
  case keysDistinct =>
    intro other
    rw [keys_takeKey bound]
    by_cases same : other = space
    · have fresh := freeKey_notMem (Entries.keys (selections.keys space)) name
      rw [if_pos same, Entries.keys_put_fresh fresh]
      apply List.nodup_append.mpr
      refine ⟨wellFormed.keysDistinct space, List.nodup_singleton _, ?_⟩
      intro old oldMember new newMember equality
      rw [List.mem_singleton.mp newMember] at equality
      subst old
      exact fresh oldMember
    · rw [if_neg same]
      exact wellFormed.keysDistinct other
  case childSpaceBound =>
    intro other key entry child found below
    rcases takeKey_lookup_cases bound found with new | old
    · rw [keySpaces_length_takeKey]
      subst entry
      cases composite : type.kind.isComposite
      · simp [newEntry, composite] at below
      · simp [newEntry, composite] at below
        simp [← below]
    · exact Nat.lt_of_lt_of_le (wellFormed.childSpaceBound old below) longer
  case composite =>
    intro other key entry found
    rcases takeKey_lookup_cases bound found with new | old
    · subst entry
      cases composite : type.kind.isComposite <;> simp [newEntry, composite]
    · exact wellFormed.composite old
  case recorded =>
    intro id record member
    rw [sameSet] at member ⊢
    obtain ⟨entry, found, agrees⟩ := wellFormed.recorded member
    refine ⟨entry, (takeKey_grows bound name signature type).keys found, ?_⟩
    refine ⟨agrees.signature, agrees.type, ?_⟩
    simp only [sameSet]
    exact agrees.child
  case signed =>
    intro id record member
    rw [sameSet] at member
    exact wellFormed.signed member
  case nameOf =>
    intro id record member
    rw [sameSet] at member
    exact wellFormed.nameOf member
  case distinct =>
    intro id
    rw [sameSet]
    exact wellFormed.distinct id
  case childAfter =>
    intro id record child member below
    rw [sameSet] at member
    rw [takeKey_sets]
    exact wellFormed.childAfter member below
  case fragmentAfter =>
    intro id fragment member
    rw [sameSet] at member
    rw [takeKey_sets]
    exact wellFormed.fragmentAfter member
  case fragmentSpace =>
    intro id fragment member
    rw [sameSet] at member
    rw [sameSet, sameSet]
    exact wellFormed.fragmentSpace member

/-! ### Recording a field -/

/-- The record of a field that is selected anew.  Its own selections, if it has
any, make up the next set of the arena. -/
def newField (selections : Selections) (name signature : String)
    (type : TypeRef) (arguments : List Argument) (key : String)
    (space : Option KeySpaceId) :
    FieldRecord :=
  { name, key, signature, type, arguments,
    child := space.map fun _ => selections.sets.length }

section pushField

variable {selections : Selections} {parent : SetId}
  {name signature key : String} {type : TypeRef} {arguments : List Argument}
  {space : Option KeySpaceId}

theorem pushField_fst :
    (selections.pushField parent name signature type arguments key space).1 =
      (selections.newField name signature type arguments key
        space).selected := by
  cases space <;> rfl

theorem pushField_keySpaces :
    (selections.pushField parent name signature type arguments key
      space).2.keySpaces =
      selections.keySpaces := by
  cases space <;> rfl

theorem pushField_sets_length :
    (selections.pushField parent name signature type arguments key
      space).2.sets.length =
      selections.sets.length + if space.isSome then 1 else 0 := by
  cases space <;> simp [pushField]

theorem set_pushField_parent (bound : parent < selections.sets.length) :
    (selections.pushField parent name signature type arguments key space).2.set
      parent =
      { selections.set parent with
        fields := (selections.set parent).fields ++
          [selections.newField name signature type arguments key space] } := by
  have inside : parent < selections.sets.length + 1 := Nat.lt_succ_of_lt bound
  cases space with
  | none => simp [pushField, set_modifySet, bound, newField]
  | some space =>
      simp [pushField, set_modifySet, set_pushSet, inside, Nat.ne_of_lt bound,
        newField]

theorem set_pushField_other {id : SetId} (different : parent ≠ id)
    (inside : id < selections.sets.length) :
    (selections.pushField parent name signature type arguments key space).2.set
      id =
      selections.set id := by
  cases space with
  | none => simp [pushField, set_modifySet, different]
  | some space =>
      simp [pushField, set_modifySet, set_pushSet, different,
        Nat.ne_of_lt inside]

/-- A set of the arena after a field is recorded is the set the field is
recorded in, the new one below the field, or as it was before. -/
theorem set_pushField_cases (bound : parent < selections.sets.length)
    (id : SetId) :
    (id = parent ∧
      (selections.pushField parent name signature type arguments key
        space).2.set id =
        { selections.set id with
          fields := (selections.set id).fields ++
            [selections.newField name signature type arguments key space] }) ∨
    (id = selections.sets.length ∧ ∃ child, space = some child ∧
      (selections.pushField parent name signature type arguments key
        space).2.set id =
        SetRecord.empty child) ∨
    (id ≠ parent ∧
      (selections.pushField parent name signature type arguments key
        space).2.set id =
        selections.set id) := by
  by_cases same : id = parent
  · subst id
    exact Or.inl ⟨rfl, set_pushField_parent bound⟩
  · rcases Nat.lt_or_ge id selections.sets.length with inside | beyond
    · exact Or.inr (Or.inr ⟨same, set_pushField_other (Ne.symm same) inside⟩)
    · cases space with
      | none =>
        exact Or.inr
          (Or.inr ⟨same, by simp [pushField, set_modifySet, Ne.symm same]⟩)
      | some child =>
          by_cases last : id = selections.sets.length
          · exact Or.inr (Or.inl ⟨last, child, rfl, by
              simp [pushField, set_modifySet, set_pushSet, Nat.ne_of_lt bound,
                last]⟩)
          · exact Or.inr (Or.inr ⟨same, by
              simp [pushField, set_modifySet, set_pushSet, Ne.symm same, last]⟩)

/-- The key space of the new set below a recorded field. -/
theorem keySpace_pushField_child (bound : parent < selections.sets.length)
    {child : KeySpaceId} (below : space = some child) :
    ((selections.pushField parent name signature type arguments key space).2.set
      selections.sets.length).keySpace = child := by
  subst below
  simp [pushField, set_modifySet, set_pushSet, Nat.ne_of_lt bound,
    SetRecord.empty]

theorem keySpace_pushField (bound : parent < selections.sets.length)
    {id : SetId}
    (inside : id < selections.sets.length) :
    ((selections.pushField parent name signature type arguments key space).2.set
      id).keySpace =
      (selections.set id).keySpace := by
  by_cases same : parent = id
  · subst id
    rw [set_pushField_parent bound]
  · rw [set_pushField_other same inside]

theorem fragments_pushField (bound : parent < selections.sets.length)
    (id : SetId) :
    ((selections.pushField parent name signature type arguments key space).2.set
      id).fragments = (selections.set id).fragments := by
  rcases set_pushField_cases bound id with
    ⟨_, same⟩ | ⟨last, _, _, same⟩ | ⟨_, same⟩
  · rw [same]
  · rw [same, set_beyond (Nat.le_of_eq last.symm)]
    rfl
  · rw [same]

/-- A field of the arena after a field is recorded was there before, or is the
recorded one. -/
theorem mem_fields_pushField (bound : parent < selections.sets.length)
    {id : SetId} {record : FieldRecord}
    (member :
      record ∈ ((selections.pushField parent name signature type arguments key
        space).2.set id).fields) :
    record ∈ (selections.set id).fields ∨
      id = parent ∧
        record =
          selections.newField name signature type arguments key space := by
  rcases set_pushField_cases bound id with
    ⟨here, same⟩ | ⟨_, _, _, same⟩ | ⟨_, same⟩
  · rw [same] at member
    rcases List.mem_append.mp member with old | new
    · exact Or.inl old
    · exact Or.inr ⟨here, List.mem_singleton.mp new⟩
  · rw [same] at member
    cases member
  · rw [same] at member
    exact Or.inl member

theorem pushField_grows (bound : parent < selections.sets.length) :
    Grows selections
      (selections.pushField parent name signature type arguments key
        space).2 := by
  constructor
  · rw [pushField_sets_length]
    exact Nat.le_add_right _ _
  · intro id inside
    exact keySpace_pushField bound inside
  · intro id
    rcases set_pushField_cases bound id with
      ⟨_, same⟩ | ⟨last, _, _, same⟩ | ⟨_, same⟩
    · rw [same]
      exact List.prefix_append _ _
    · rw [set_beyond (Nat.le_of_eq last.symm)]
      exact List.nil_prefix
    · rw [same]
  · intro id typeName set found
    rw [fragments_pushField bound]
    exact found
  · intro id required
    rcases set_pushField_cases bound id with
      ⟨_, same⟩ | ⟨last, _, _, same⟩ | ⟨_, same⟩
    · rw [same]
      exact required
    · rw [set_beyond (Nat.le_of_eq last.symm)] at required
      cases required
    · rw [same]
      exact required
  · intro other key entry found
    rw [keys_of_keySpaces pushField_keySpaces]
    exact found

/-- The new field stands for the key it is recorded under. -/
theorem newField_matches (bound : parent < selections.sets.length)
    {entry : KeyEntry}
    (sameSignature : entry.signature = signature) (sameType : entry.type = type)
    (below : entry.child = space) :
    (selections.newField name signature type arguments key space).Matches
      (selections.pushField parent name signature type arguments key space).2
        entry := by
  refine ⟨sameSignature, sameType, ?_⟩
  cases given : space with
  | none => simp [below, given, newField]
  | some child => simp [below, given, newField, keySpace_pushField_child bound]

/-- Recording a field under a key that stands for it keeps the invariant. -/
theorem pushField_wellFormed {named : String → Prop}
    (wellFormed : WellFormed named selections)
    (bound : parent < selections.sets.length)
    {entry : KeyEntry}
    (found :
      Entries.lookup? (selections.keys (selections.set parent).keySpace) key =
        some entry)
    (sameSignature : entry.signature = signature) (sameType : entry.type = type)
    (below : entry.child = space)
    (signed : signature = GraphPipeline.signature name arguments)
    (unselected :
      signature ∉ (selections.set parent).fields.map FieldRecord.signature)
    (nameOf : named name) :
    WellFormed named
      (selections.pushField parent name signature type arguments key
        space).2 := by
  have sameKeys :
      ∀ other,
        (selections.pushField parent name signature type arguments key
            space).2.keys other = selections.keys other :=
    keys_of_keySpaces pushField_keySpaces
  have grows : Grows selections
      (selections.pushField parent name signature type arguments key space).2 :=
    pushField_grows bound
  constructor
  case spaceBound =>
    intro id
    rw [pushField_keySpaces]
    rcases set_pushField_cases bound id with
      ⟨_, same⟩ | ⟨_, child, given, same⟩ | ⟨_, same⟩
    · rw [same]
      exact wellFormed.spaceBound id
    · rw [same]
      exact wellFormed.childSpaceBound found (below.trans given)
    · rw [same]
      exact wellFormed.spaceBound id
  case keysDistinct =>
    intro other
    rw [sameKeys]
    exact wellFormed.keysDistinct other
  case childSpaceBound =>
    intro other key entry child found below
    rw [sameKeys] at found
    rw [pushField_keySpaces]
    exact wellFormed.childSpaceBound found below
  case composite =>
    intro other key entry found
    rw [sameKeys] at found
    exact wellFormed.composite found
  case recorded =>
    intro id record member
    have inside : id < selections.sets.length := by
      rcases mem_fields_pushField bound member with old | ⟨rfl, _⟩
      · exact lt_of_mem_fields old
      · exact bound
    rw [sameKeys, keySpace_pushField bound inside]
    rcases mem_fields_pushField bound member with old | ⟨rfl, rfl⟩
    · obtain ⟨oldEntry, oldFound, agrees⟩ := wellFormed.recorded old
      exact ⟨oldEntry, oldFound,
        matches_of_sameSpace wellFormed grows.keySpace old agrees⟩
    · exact ⟨entry, found, newField_matches bound sameSignature sameType below⟩
  case signed =>
    intro id record member
    rcases mem_fields_pushField bound member with old | ⟨_, rfl⟩
    · exact wellFormed.signed old
    · exact signed
  case nameOf =>
    intro id record member
    rcases mem_fields_pushField bound member with old | ⟨_, rfl⟩
    · exact wellFormed.nameOf old
    · exact nameOf
  case distinct =>
    intro id
    rcases set_pushField_cases bound id with
      ⟨here, same⟩ | ⟨_, _, _, same⟩ | ⟨_, same⟩
    · rw [same, List.map_append, List.nodup_append, here]
      refine ⟨wellFormed.distinct parent, List.nodup_singleton _, ?_⟩
      intro old oldMember new newMember equality
      rw [List.mem_singleton.mp newMember] at equality
      subst old
      exact unselected oldMember
    · rw [same]
      exact List.nodup_nil
    · rw [same]
      exact wellFormed.distinct id
  case childAfter =>
    intro id record child member below
    rw [pushField_sets_length]
    rcases mem_fields_pushField bound member with old | ⟨rfl, rfl⟩
    · have inner := wellFormed.childAfter old below
      exact ⟨inner.1, Nat.lt_of_lt_of_le inner.2 (Nat.le_add_right _ _)⟩
    · cases given : space with
      | none => simp [newField, given] at below
      | some space =>
          simp only [newField, given, Option.map_some,
            Option.some.injEq] at below
          subst child
          exact ⟨bound, by simp⟩
  case fragmentAfter =>
    intro id fragment member
    rw [fragments_pushField bound] at member
    have inner := wellFormed.fragmentAfter member
    rw [pushField_sets_length]
    exact ⟨inner.1, Nat.lt_of_lt_of_le inner.2 (Nat.le_add_right _ _)⟩
  case fragmentSpace =>
    intro id fragment member
    rw [fragments_pushField bound] at member
    have inner := wellFormed.fragmentAfter member
    rw [keySpace_pushField bound inner.2,
      keySpace_pushField bound (Nat.lt_trans inner.1 inner.2)]
    exact wellFormed.fragmentSpace member

end pushField

/-! ### Selecting a field -/

/-- A field of a set that stands for a definition with written arguments. -/
def Holds (selections : Selections) (set : SetId) (definition : FieldDefinition)
    (arguments : List Argument) (selected : SelectedField) : Prop :=
  ∃ record ∈ (selections.set set).fields,
    record.signature = signature definition.name arguments ∧
      record.type = definition.type ∧ record.selected = selected

theorem Holds.grow {before after : Selections} (grows : Grows before after)
    {set : SetId} {definition : FieldDefinition} {arguments : List Argument}
    {selected : SelectedField}
    (holds : before.Holds set definition arguments selected) :
    after.Holds set definition arguments selected := by
  obtain ⟨record, member, facts⟩ := holds
  exact ⟨record, (grows.fields set).subset member, facts⟩

/-- The set below a selected field is a later set of the arena. -/
theorem Holds.child_lt {named : String → Prop} {selections : Selections}
    (wellFormed : WellFormed named selections) {set : SetId}
    {definition : FieldDefinition} {arguments : List Argument}
    {selected : SelectedField}
    (holds : selections.Holds set definition arguments selected) {child : SetId}
    (below : selected.child = some child) : child < selections.sets.length := by
  obtain ⟨record, member, _, _, rfl⟩ := holds
  exact (wellFormed.childAfter member below).2

/-- A selected field has selections of its own if its type has fields. -/
theorem Holds.isSome_child {named : String → Prop} {selections : Selections}
    (wellFormed : WellFormed named selections) {set : SetId}
    {definition : FieldDefinition} {arguments : List Argument}
    {selected : SelectedField}
    (holds : selections.Holds set definition arguments selected) :
    selected.child.isSome = definition.type.kind.isComposite := by
  obtain ⟨record, member, _, sameType, rfl⟩ := holds
  obtain ⟨entry, found, matching⟩ := wellFormed.recorded member
  have composite := wellFormed.composite found
  rw [matching.type, sameType, matching.child, Option.isSome_map] at composite
  exact composite

theorem lookup?_of_keyOf? {named : String → Prop} {selections : Selections}
    (wellFormed : WellFormed named selections) {space : KeySpaceId}
    {signature key : String} {entry : KeyEntry}
    (found : selections.keyOf? space signature = some (key, entry)) :
    Entries.lookup? (selections.keys space) key = some entry ∧
      entry.signature = signature := by
  unfold keyOf? at found
  have member := List.mem_of_find?_eq_some found
  have signed := List.find?_some found
  exact ⟨Entries.lookup?_of_mem (wellFormed.keysDistinct space) member,
    by simpa using signed⟩

/-- The key a field resolves to stands for the field. -/
theorem resolveKey_spec {named : String → Prop} {selections after : Selections}
    (wellFormed : WellFormed named selections) {space : KeySpaceId}
    (bound : space < selections.keySpaces.length) {name signature key : String}
    {type : TypeRef} {child : Option KeySpaceId}
    (resolved : selections.resolveKey space name signature type =
      .ok ((key, child), after)) :
    WellFormed named after ∧ Grows selections after ∧
      after.sets = selections.sets ∧
      ∃ entry, Entries.lookup? (after.keys space) key = some entry ∧
        entry.signature = signature ∧ entry.type = type ∧
          entry.child = child := by
  unfold resolveKey at resolved
  cases known : selections.keyOf? space signature with
  | some pair =>
      obtain ⟨knownKey, entry⟩ := pair
      simp only [known] at resolved
      by_cases sameType : entry.type = type
      · simp only [sameType, if_true, Except.ok.injEq,
          Prod.mk.injEq] at resolved
        obtain ⟨⟨rfl, rfl⟩, rfl⟩ := resolved
        have facts := lookup?_of_keyOf? wellFormed known
        exact ⟨wellFormed, Grows.refl _, rfl, entry, facts.1, facts.2, sameType,
          rfl⟩
      · simp [sameType] at resolved
  | none =>
      simp only [known, Except.ok.injEq] at resolved
      have sameKey := congrArg (·.1.1) resolved
      have sameChild := congrArg (·.1.2) resolved
      have sameAfter := congrArg Prod.snd resolved
      simp only at sameKey sameChild sameAfter
      subst sameAfter
      refine ⟨takeKey_wellFormed wellFormed bound _ _ _,
        takeKey_grows bound _ _ _, takeKey_sets _ _ _ _ _,
        selections.newEntry signature type, ?_, rfl, rfl, ?_⟩
      · rw [← sameKey]
        exact takeKey_entry bound name signature type
      · rw [← sameChild, takeKey_fst]

/-- Selecting a field finds it in the set or records it there anew. -/
theorem field_cases {selections after : Selections} {parent : SetId}
    {definition : FieldDefinition} {arguments : List Argument}
    {selected : SelectedField}
    (success :
      selections.field parent definition arguments = .ok (selected, after)) :
    (after = selections ∧
      selections.Holds parent definition arguments selected) ∨
      signature definition.name arguments ∉
          (selections.set parent).fields.map FieldRecord.signature ∧
        ∃ key space middle,
          selections.resolveKey (selections.set parent).keySpace definition.name
            (signature definition.name arguments) definition.type =
              .ok ((key, space), middle) ∧
          (selected, after) = middle.pushField parent definition.name
            (signature definition.name arguments) definition.type arguments key
              space := by
  unfold field at success
  cases known : (selections.set parent).fields.find?
      (·.signature == signature definition.name arguments) with
  | some record =>
      simp only [known] at success
      by_cases sameType : record.type = definition.type
      · simp only [sameType, if_true, Except.ok.injEq, Prod.mk.injEq] at success
        obtain ⟨rfl, rfl⟩ := success
        have signed := List.find?_some known
        exact Or.inl ⟨rfl, record, List.mem_of_find?_eq_some known,
          by simpa using signed, sameType, rfl⟩
      · simp [sameType] at success
  | none =>
      simp only [known] at success
      refine Or.inr ⟨?_, ?_⟩
      · intro member
        obtain ⟨record, recordMember, equality⟩ := List.mem_map.mp member
        have absent := List.find?_eq_none.mp known record recordMember
        simp [equality] at absent
      · cases resolution :
            selections.resolveKey (selections.set parent).keySpace
              definition.name (signature definition.name arguments)
              definition.type with
        | error conflict => simp [resolution, Except.map] at success
        | ok resolved =>
            obtain ⟨⟨key, space⟩, middle⟩ := resolved
            simp only [resolution, Except.map, Except.ok.injEq] at success
            exact ⟨key, space, middle, rfl, success.symm⟩

/-- Selecting a field keeps the invariant, only adds to the arena, and leaves
the field selected. -/
theorem field_spec {named : String → Prop} {selections after : Selections}
    (wellFormed : WellFormed named selections) {parent : SetId}
    (bound : parent < selections.sets.length) {definition : FieldDefinition}
    {arguments : List Argument} (nameOf : named definition.name)
    {selected : SelectedField}
    (success :
      selections.field parent definition arguments = .ok (selected, after)) :
    WellFormed named after ∧ Grows selections after ∧
      after.Holds parent definition arguments selected := by
  rcases field_cases success with
    ⟨rfl, holds⟩ | ⟨unselected, key, space, middle, resolution, pushed⟩
  · exact ⟨wellFormed, Grows.refl _, holds⟩
  · obtain ⟨middleFormed, grows, sameSets, entry, found, signed, typed,
      below⟩ :=
      resolveKey_spec wellFormed (wellFormed.spaceBound parent) resolution
    have sameSet : middle.set parent = selections.set parent := by
      simp only [set, sameSets]
    have middleBound : parent < middle.sets.length := by
      rw [sameSets]
      exact bound
    have sameSelected := congrArg Prod.fst pushed
    have sameAfter := congrArg Prod.snd pushed
    simp only at sameSelected sameAfter
    subst sameAfter
    rw [← sameSet] at found unselected
    refine ⟨pushField_wellFormed middleFormed middleBound found signed typed
        below
      rfl unselected nameOf, grows.trans (pushField_grows middleBound), ?_⟩
    refine ⟨middle.newField definition.name
      (signature definition.name arguments) definition.type arguments key space,
      ?_, rfl, rfl, ?_⟩
    · rw [set_pushField_parent middleBound]
      exact List.mem_append_right _ (List.mem_singleton_self _)
    · rw [sameSelected, pushField_fst]

/-! ### Selecting a fragment -/

/-- A change that leaves fields and key spaces alone keeps the invariant, if the
fragments it adds are later sets with the same keys. -/
theorem WellFormed.of_sameFields {named : String → Prop}
    {before after : Selections}
    (wellFormed : WellFormed named before)
    (longer : before.sets.length ≤ after.sets.length)
    (sameSpaces : after.keySpaces = before.keySpaces)
    (sameFields : ∀ id, (after.set id).fields = (before.set id).fields)
    (sameSpace : ∀ {id}, id < before.sets.length →
      (after.set id).keySpace = (before.set id).keySpace)
    (spaceBound : ∀ id, (after.set id).keySpace < before.keySpaces.length)
    (fragmentOf : ∀ {id fragment}, fragment ∈ (after.set id).fragments →
      id < fragment.2 ∧ fragment.2 < after.sets.length ∧
        (after.set fragment.2).keySpace = (after.set id).keySpace) :
    WellFormed named after := by
  have sameKeys := keys_of_keySpaces sameSpaces
  constructor
  case spaceBound =>
    intro id
    rw [sameSpaces]
    exact spaceBound id
  case keysDistinct =>
    intro space
    rw [sameKeys]
    exact wellFormed.keysDistinct space
  case childSpaceBound =>
    intro space key entry child found below
    rw [sameKeys] at found
    rw [sameSpaces]
    exact wellFormed.childSpaceBound found below
  case composite =>
    intro space key entry found
    rw [sameKeys] at found
    exact wellFormed.composite found
  case recorded =>
    intro id record member
    rw [sameFields] at member
    obtain ⟨entry, found, agrees⟩ := wellFormed.recorded member
    refine ⟨entry, ?_, matches_of_sameSpace wellFormed sameSpace member agrees⟩
    rw [sameKeys, sameSpace (lt_of_mem_fields member)]
    exact found
  case signed =>
    intro id record member
    rw [sameFields] at member
    exact wellFormed.signed member
  case nameOf =>
    intro id record member
    rw [sameFields] at member
    exact wellFormed.nameOf member
  case distinct =>
    intro id
    rw [sameFields]
    exact wellFormed.distinct id
  case childAfter =>
    intro id record child member below
    rw [sameFields] at member
    have inner := wellFormed.childAfter member below
    exact ⟨inner.1, Nat.lt_of_lt_of_le inner.2 longer⟩
  case fragmentAfter =>
    intro id fragment member
    exact ⟨(fragmentOf member).1, (fragmentOf member).2.1⟩
  case fragmentSpace =>
    intro id fragment member
    exact (fragmentOf member).2.2

/-- The arena once a set asks for the type of its objects. -/
def requireTypename (selections : Selections) (parent : SetId) : Selections :=
  selections.modifySet parent fun set => { set with requiresTypename := true }

theorem set_requireTypename {selections : Selections} {parent : SetId}
    (bound : parent < selections.sets.length) (id : SetId) :
    (selections.requireTypename parent).set id =
      if parent = id then { selections.set id with requiresTypename := true }
      else selections.set id := by
  rw [requireTypename, set_modifySet]
  by_cases same : parent = id
  · subst id
    simp [bound]
  · simp [same]

/-- The arena once a set has a new fragment for a type. -/
def addFragment (selections : Selections) (parent : SetId) (typeName : String) :
    Selections :=
  (selections.pushSet (selections.set parent).keySpace).2.modifySet
    parent fun set =>
    { set with
      fragments := Entries.put set.fragments typeName selections.sets.length }

theorem set_addFragment_parent {selections : Selections} {parent : SetId}
    (bound : parent < selections.sets.length) (typeName : String) :
    (selections.addFragment parent typeName).set parent =
      { selections.set parent with
        fragments := Entries.put (selections.set parent).fragments typeName
          selections.sets.length } := by
  have inside : parent < selections.sets.length + 1 := Nat.lt_succ_of_lt bound
  simp [addFragment, set_modifySet, set_pushSet, inside, Nat.ne_of_lt bound]

theorem set_addFragment_new {selections : Selections} {parent : SetId}
    (bound : parent < selections.sets.length) (typeName : String) :
    (selections.addFragment parent typeName).set selections.sets.length =
      SetRecord.empty (selections.set parent).keySpace := by
  simp [addFragment, set_modifySet, set_pushSet, Nat.ne_of_lt bound]

theorem set_addFragment_other {selections : Selections} {parent id : SetId}
    (different : parent ≠ id) (old : id ≠ selections.sets.length)
    (typeName : String) :
    (selections.addFragment parent typeName).set id = selections.set id := by
  simp [addFragment, set_modifySet, set_pushSet, different, old]

theorem fragment_eq {selections : Selections} {parent : SetId}
    (bound : parent < selections.sets.length) (typeName : String) :
    selections.fragment parent typeName =
      match Entries.lookup? (selections.set parent).fragments typeName with
      | some id => (id, selections.requireTypename parent)
      | none => (selections.sets.length,
          (selections.requireTypename parent).addFragment parent typeName) := by
  have sameFragments :
      ((selections.requireTypename parent).set parent).fragments =
        (selections.set parent).fragments := by
    rw [set_requireTypename bound, if_pos rfl]
  have sameLength : (selections.requireTypename parent).sets.length =
      selections.sets.length := by
    simp [requireTypename]
  rw [← sameFragments, ← sameLength]
  rfl

theorem requireTypename_grows {selections : Selections} {parent : SetId}
    (bound : parent < selections.sets.length) :
    Grows selections (selections.requireTypename parent) := by
  constructor
  · simp [requireTypename]
  · intro id _
    rw [set_requireTypename bound]
    split <;> rfl
  · intro id
    rw [set_requireTypename bound]
    split <;> exact List.prefix_rfl
  · intro id name set found
    rw [set_requireTypename bound]
    split <;> exact found
  · intro id required
    rw [set_requireTypename bound]
    split
    · rfl
    · exact required
  · intro space key entry found
    exact found

theorem requireTypename_wellFormed {named : String → Prop}
    {selections : Selections}
    (wellFormed : WellFormed named selections) {parent : SetId}
    (bound : parent < selections.sets.length) :
    WellFormed named (selections.requireTypename parent) := by
  have sameSpace : ∀ id, ((selections.requireTypename parent).set id).keySpace =
      (selections.set id).keySpace := by
    intro id
    rw [set_requireTypename bound]
    split <;> rfl
  have sameFragments :
      ∀ id, ((selections.requireTypename parent).set id).fragments =
        (selections.set id).fragments := by
    intro id
    rw [set_requireTypename bound]
    split <;> rfl
  apply wellFormed.of_sameFields
  · simp [requireTypename]
  · rfl
  · intro id
    rw [set_requireTypename bound]
    split <;> rfl
  · intro id _
    exact sameSpace id
  · intro id
    rw [sameSpace]
    exact wellFormed.spaceBound id
  · intro id fragment member
    rw [sameFragments] at member
    have later := wellFormed.fragmentAfter member
    rw [sameSpace, sameSpace]
    exact ⟨later.1, by simpa [requireTypename] using later.2,
      wellFormed.fragmentSpace member⟩

theorem fields_addFragment {selections : Selections} {parent : SetId}
    (bound : parent < selections.sets.length) (typeName : String) (id : SetId) :
    ((selections.addFragment parent typeName).set id).fields =
      (selections.set id).fields := by
  by_cases same : parent = id
  · subst id
    rw [set_addFragment_parent bound]
  · by_cases last : id = selections.sets.length
    · subst id
      rw [set_addFragment_new bound]
      simp [set, SetRecord.empty]
    · rw [set_addFragment_other same last]

theorem keySpace_addFragment {selections : Selections} {parent : SetId}
    (bound : parent < selections.sets.length) (typeName : String) {id : SetId}
    (inside : id < selections.sets.length) :
    ((selections.addFragment parent typeName).set id).keySpace =
      (selections.set id).keySpace := by
  by_cases same : parent = id
  · subst id
    rw [set_addFragment_parent bound]
  · rw [set_addFragment_other same (Nat.ne_of_lt inside)]

theorem addFragment_grows {selections : Selections} {parent : SetId}
    (bound : parent < selections.sets.length) {typeName : String}
    (absent :
      Entries.lookup? (selections.set parent).fragments typeName = none) :
    Grows selections (selections.addFragment parent typeName) := by
  have outside :
      (selections.set selections.sets.length).requiresTypename = false ∧
        (selections.set selections.sets.length).fragments = [] := by
    simp [set, SetRecord.empty]
  constructor
  · simp [addFragment]
  · intro id inside
    exact keySpace_addFragment bound typeName inside
  · intro id
    rw [fields_addFragment bound]
  · intro id name set found
    by_cases same : parent = id
    · subst id
      rw [set_addFragment_parent bound]
      exact Entries.lookup?_put_fresh (Entries.lookup?_eq_none_iff.mp absent)
        found
    · by_cases last : id = selections.sets.length
      · subst id
        simp [outside.2] at found
      · rw [set_addFragment_other same last]
        exact found
  · intro id required
    by_cases same : parent = id
    · subst id
      rw [set_addFragment_parent bound]
      exact required
    · by_cases last : id = selections.sets.length
      · subst id
        simp [outside.1] at required
      · rw [set_addFragment_other same last]
        exact required
  · intro space key entry found
    exact found

theorem addFragment_wellFormed {named : String → Prop} {selections : Selections}
    (wellFormed : WellFormed named selections) {parent : SetId}
    (bound : parent < selections.sets.length) (typeName : String) :
    WellFormed named (selections.addFragment parent typeName) := by
  have longer : (selections.addFragment parent typeName).sets.length =
      selections.sets.length + 1 := by
    simp [addFragment]
  apply wellFormed.of_sameFields
  · rw [longer]
    exact Nat.le_succ _
  · rfl
  · exact fields_addFragment bound typeName
  · intro id inside
    exact keySpace_addFragment bound typeName inside
  · intro id
    by_cases same : parent = id
    · subst id
      rw [set_addFragment_parent bound]
      exact wellFormed.spaceBound parent
    · by_cases last : id = selections.sets.length
      · subst id
        rw [set_addFragment_new bound]
        exact wellFormed.spaceBound parent
      · rw [set_addFragment_other same last]
        exact wellFormed.spaceBound id
  · intro id fragment member
    rw [longer]
    have old : fragment ∈ (selections.set id).fragments →
        id < fragment.2 ∧ fragment.2 < selections.sets.length + 1 ∧
          ((selections.addFragment parent typeName).set fragment.2).keySpace =
            ((selections.addFragment parent typeName).set id).keySpace := by
      intro oldMember
      have later := wellFormed.fragmentAfter oldMember
      refine ⟨later.1, Nat.lt_succ_of_lt later.2, ?_⟩
      rw [keySpace_addFragment bound typeName later.2,
        keySpace_addFragment bound typeName (Nat.lt_trans later.1 later.2)]
      exact wellFormed.fragmentSpace oldMember
    by_cases same : parent = id
    · subst id
      rw [set_addFragment_parent bound] at member
      rcases Entries.mem_put member with new | oldMember
      · subst fragment
        refine ⟨bound, Nat.lt_succ_self _, ?_⟩
        rw [set_addFragment_new bound, set_addFragment_parent bound]
        rfl
      · exact old oldMember
    · by_cases last : id = selections.sets.length
      · subst id
        rw [set_addFragment_new bound] at member
        simp [SetRecord.empty] at member
      · rw [set_addFragment_other same last] at member
        exact old member

/-- Selecting a fragment keeps the invariant, only adds to the arena, and leaves
the fragment in a set that asks for the type of its objects. -/
theorem fragment_spec {named : String → Prop} {selections : Selections}
    (wellFormed : WellFormed named selections) {parent : SetId}
    (bound : parent < selections.sets.length) {typeName : String} {id : SetId}
    {after : Selections}
    (success : selections.fragment parent typeName = (id, after)) :
    WellFormed named after ∧ Grows selections after ∧
      Entries.lookup? (after.set parent).fragments typeName = some id ∧
        (after.set parent).requiresTypename = true := by
  have sameSet : (selections.requireTypename parent).set parent =
      { selections.set parent with requiresTypename := true } := by
    rw [set_requireTypename bound, if_pos rfl]
  have formed := requireTypename_wellFormed wellFormed bound
  have grows := requireTypename_grows bound
  rw [fragment_eq bound] at success
  cases known : Entries.lookup? (selections.set parent).fragments typeName with
  | some old =>
      simp only [known, Prod.mk.injEq] at success
      obtain ⟨rfl, rfl⟩ := success
      rw [sameSet]
      exact ⟨formed, grows, known, rfl⟩
  | none =>
      simp only [known, Prod.mk.injEq] at success
      obtain ⟨rfl, rfl⟩ := success
      have sameLength : (selections.requireTypename parent).sets.length =
          selections.sets.length := by
        simp [requireTypename]
      have inside :
          parent < (selections.requireTypename parent).sets.length := by
        rw [sameLength]
        exact bound
      have absent : Entries.lookup?
          ((selections.requireTypename parent).set parent).fragments typeName =
            none := by
        rw [sameSet]
        exact known
      refine ⟨addFragment_wellFormed formed inside typeName,
        grows.trans (addFragment_grows inside absent), ?_, ?_⟩
      · rw [set_addFragment_parent inside, ← sameLength]
        exact Entries.lookup?_put_same _ _ _
      · rw [set_addFragment_parent inside, sameSet]

/-- The fragment of a type is a later set of the arena. -/
theorem fragment_lt {named : String → Prop} {selections : Selections}
    (wellFormed : WellFormed named selections) {parent id : SetId}
    {typeName : String}
    (found :
      Entries.lookup? (selections.set parent).fragments typeName = some id) :
    id < selections.sets.length :=
  (wellFormed.fragmentAfter (Entries.mem_of_lookup? found)).2

/-- The arena with the root set alone. -/
theorem initial_wellFormed (named : String → Prop) :
    WellFormed named initial := by
  have noFields : ∀ id, (initial.set id).fields = [] := by
    intro id
    cases id <;> rfl
  have noFragments : ∀ id, (initial.set id).fragments = [] := by
    intro id
    cases id <;> rfl
  have noKeys : ∀ space, initial.keys space = [] := by
    intro space
    cases space <;> rfl
  constructor
  · intro id
    cases id <;> exact Nat.zero_lt_one
  · intro space
    rw [noKeys]
    exact List.nodup_nil
  · intro space key entry child found
    simp [noKeys] at found
  · intro space key entry found
    simp [noKeys] at found
  · intro id record member
    simp [noFields] at member
  · intro id record member
    simp [noFields] at member
  · intro id record member
    simp [noFields] at member
  · intro id
    rw [noFields]
    exact List.nodup_nil
  · intro id record child member
    simp [noFields] at member
  · intro id fragment member
    simp [noFragments] at member
  · intro id fragment member
    simp [noFragments] at member

end Selections

end GraphPipeline
