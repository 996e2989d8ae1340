import GraphPipeline.Proofs.Evaluation.Lockstep

/-!
# Parts of programs in step

How the parts of a program stay in step when the programs inside of them do.
Where the early evaluation sees only a prefix of a list, the late and the whole
one must agree on the items beyond it by themselves.
-/

namespace GraphPipeline

namespace Json

def isCollection : Json → Bool
  | .array _ => true
  | .object _ => true
  | _ => false

/-- Equal scalars, or any two collections. -/
def Resembles (value other : Json) : Prop :=
  value = other ∨ (value.isCollection = true ∧ other.isCollection = true)

theorem Resembles.isNull {value other : Json}
    (resembles : value.Resembles other) :
    value.isNull = other.isNull := by
  rcases resembles with rfl | ⟨collection, otherCollection⟩
  · rfl
  · cases value <;> cases other <;>
      simp_all [isCollection, Json.isNull]

/-- Results that count as the same entry of a dictionary, up to the value. -/
def SameEntry (value other : Json) : Prop :=
  (value = .null ∧ other = .null) ∨
    ∃ key member otherKey otherMember, value = .array [key, member] ∧
      other = .array [otherKey, otherMember] ∧ key.Resembles otherKey

end Json

namespace Evaluate

variable {α : Type} {bindings merged : Nat → Option Json}
  {paged : Pages → Pages → Pages → Prop} {post : Json → Json → Json → Prop}

/-- The late and the whole evaluation have the same value. -/
def Agreed {α : Type} (_ second third : α) : Prop :=
  second = third

theorem result_memberOf {value member : Json} {key : String}
    (found : value.member? key = some member) (state : EvaluationState) :
    (memberOf value key).result state = (.ok member, state) := by
  cases value with
  | object members =>
      have known : Entries.lookup? members key = some member := found
      simp only [memberOf, result_atPath, known]
  | null => cases found
  | bool value => cases found
  | number value => cases found
  | string value => cases found
  | array items => cases found

theorem memberOf_eq_pure {value member : Json} {key : String}
    (found : value.member? key = some member) :
    memberOf value key = pure member :=
  funext fun state => result_memberOf found state

theorem fails_memberOf {value : Json} {key : String}
    (missing : value.member? key = none) :
    Fails (memberOf value key) := by
  apply fails_atPath
  intro path
  cases value with
  | object members =>
      have unknown : Entries.lookup? members key = none := missing
      simp only [unknown]
      exact ⟨_, rfl⟩
  | null => exact ⟨_, rfl⟩
  | bool value => exact ⟨_, rfl⟩
  | number value => exact ⟨_, rfl⟩
  | string value => exact ⟨_, rfl⟩
  | array items => exact ⟨_, rfl⟩

theorem inStep_memberOf {value other : Json} {key : String}
    (members : Option.Rel (fun member others => post member member others)
      (value.member? key) (other.member? key)) :
    InStep bindings merged paged post (memberOf value key) (memberOf value key)
      (memberOf other key) := by
  generalize found : value.member? key = left at members
  generalize otherFound : other.member? key = right at members
  cases members with
  | none =>
    exact inStep_of_early (fails_memberOf found) (fails_memberOf otherFound)
  | some holds =>
      intro first second third abreast
      rw [result_memberOf found, result_memberOf found,
        result_memberOf otherFound]
      exact .ok holds abreast

theorem inStep_items {early late whole : List Json}
    {holds : List Json → List Json → List Json → Prop}
    (same : holds early late whole) :
    InStep bindings merged paged holds (itemsOf (.array early))
      (itemsOf (.array late))
      (itemsOf (.array whole)) :=
  fun _ _ _ abreast => .ok same abreast

theorem fails_itemsOf {value : Json} (noList : ∀ items, value ≠ .array items) :
    Fails (itemsOf value) := by
  apply fails_atPath
  intro path
  cases value with
  | array items => exact absurd rfl (noList items)
  | null => exact ⟨_, rfl⟩
  | bool value => exact ⟨_, rfl⟩
  | number value => exact ⟨_, rfl⟩
  | string value => exact ⟨_, rfl⟩
  | object members => exact ⟨_, rfl⟩

/-! ### Leaves -/

mutual

theorem inStep_checkLeaf (name : String) (kind : TypeKind) (value : Json)
    (wrapping : Wrapping) :
    InStep bindings merged paged (fun _ _ _ => True)
      (checkLeaf name kind value wrapping)
      (checkLeaf name kind value wrapping)
        (checkLeaf name kind value wrapping) := by
  have kindChecked : ∀ value,
      InStep bindings merged paged (fun _ _ _ => True)
        (checkKind name kind value) (checkKind name kind value)
        (checkKind name kind value) := by
    intro value
    unfold checkKind
    split
    · exact inStep_pure trivial
    · exact inStep_of_early (fails_failAt _) (fails_failAt _)
  have singleChecked : ∀ value,
      InStep bindings merged paged (fun _ _ _ => True)
        (checkSingle name kind value wrapping)
        (checkSingle name kind value wrapping)
        (checkSingle name kind value wrapping) := by
    intro value
    unfold checkSingle
    split
    · exact inStep_of_early (fails_failAt _) (fails_failAt _)
    · exact kindChecked value
  cases value with
  | null =>
      unfold checkLeaf
      split
      · exact inStep_of_early (fails_failAt _) (fails_failAt _)
      · exact inStep_pure trivial
  | array items =>
      unfold checkLeaf
      cases wrapping.element? with
      | some element => exact inStep_checkItems name kind items element 0
      | none => exact kindChecked _
  | bool value => simpa only [checkLeaf] using singleChecked _
  | number value => simpa only [checkLeaf] using singleChecked _
  | string value => simpa only [checkLeaf] using singleChecked _
  | object members => simpa only [checkLeaf] using singleChecked _

theorem inStep_checkItems (name : String) (kind : TypeKind) (items : List Json)
    (wrapping : Wrapping) (index : Nat) :
    InStep bindings merged paged (fun _ _ _ => True)
      (checkItems name kind items wrapping index)
        (checkItems name kind items wrapping index)
      (checkItems name kind items wrapping index) := by
  cases items with
  | nil => exact inStep_pure trivial
  | cons item items =>
      unfold checkItems
      refine (inStep_within (inStep_checkLeaf name kind item wrapping)).bind ?_
      intro _ _ _ _
      exact inStep_checkItems name kind items wrapping _

end

theorem inStep_readLeaf {value other : Json} {key : String} (type : TypeRef)
    (same : value.member? key = other.member? key) :
    InStep bindings merged paged
      (fun first second third => first = third ∧ second = third)
      (readLeaf key type value) (readLeaf key type value)
        (readLeaf key type other) := by
  have member : InStep bindings merged paged
      (fun first second third => first = third ∧ second = third)
      (memberOf value key) (memberOf value key) (memberOf other key) := by
    apply inStep_memberOf
    rw [same]
    cases other.member? key with
    | none => exact .none
    | some member => exact .some ⟨rfl, rfl⟩
  unfold readLeaf
  refine member.bind ?_
  rintro _ leaf _ ⟨rfl, rfl⟩
  have checked : InStep bindings merged paged
      (fun first second third => first = third ∧ second = third)
      (do checkLeaf type.name type.kind leaf type.wrapping; pure leaf)
      (do checkLeaf type.name type.kind leaf type.wrapping; pure leaf)
      (do checkLeaf type.name type.kind leaf type.wrapping; pure leaf) :=
    (inStep_checkLeaf type.name type.kind leaf type.wrapping).bind
      fun _ _ _ _ => inStep_pure ⟨rfl, rfl⟩
  apply inStep_within
  split
  · refine InStep.bind (inStep_modify ?_) fun _ _ _ _ => checked
    exact fun _ _ _ abreast => { abreast with }
  · exact checked

/-! ### Lists -/

theorem inStep_mapItems {filters : Nat}
    {early late whole : Json → Evaluate Json} {items : List Json}
    (each : ∀ item ∈ items,
      InStep bindings merged paged Agreed (early item) (late item) (whole item))
    (index : Nat) :
    InStep bindings merged paged Agreed (mapItems filters early items index)
      (mapItems filters late items index)
        (mapItems filters whole items index) := by
  induction items generalizing index with
  | nil => exact inStep_pure rfl
  | cons item items induction =>
      unfold mapItems
      refine InStep.bind (inStep_modify ?_) fun _ _ _ _ => ?_
      · exact fun _ _ _ abreast =>
          { abreast with pending := rfl, rejected := rfl }
      refine (inStep_within (each item List.mem_cons_self)).bind ?_
      intro _ second third same
      refine inStep_get.bind fun _ late whole abreast => ?_
      refine (induction
        (fun other member => each other (List.mem_cons_of_mem _ member)) _).bind
        ?_
      intro _ seconds thirds sameOutputs
      apply inStep_pure
      unfold Agreed at same sameOutputs ⊢
      rw [same, sameOutputs, abreast.rejected]

/-- The late and the whole evaluation agree by themselves. -/
def Alone (bindings merged : Nat → Option Json) (late whole : Evaluate α) :
    Prop :=
  ∀ paged, InStep bindings merged paged Agreed late late whole

/-- What happens after the early evaluation has come to its end. -/
theorem inStep_of_alone {early : α} {holds : α → α → α → Prop}
    {late whole : Evaluate α}
    (alone : Alone bindings merged late whole)
    (same : ∀ value, holds early value value) :
    InStep bindings merged paged holds (pure early) late whole := by
  intro first second third abreast
  have outcomes := alone
    (fun _ latePages wholePages =>
      latePages = second.pages ∧ wholePages = third.pages)
    second second third
    { abreast with earlyBindings := abreast.lateBindings, pages := ⟨rfl, rfl⟩ }
  generalize late.result second = two at outcomes ⊢
  generalize whole.result third = three at outcomes ⊢
  cases outcomes with
  | @ok _ _ value _ laterSecond laterThird agreed later =>
      unfold Agreed at agreed
      subst agreed
      refine .ok (same _)
        { later with earlyBindings := abreast.earlyBindings, pages := ?_ }
      obtain ⟨sameLate, sameWhole⟩ := later.pages
      rw [sameLate, sameWhole]
      exact abreast.pages
  | early => exact .late
  | late => exact .late

/-- The early evaluation sees a prefix of the items. -/
theorem inStep_mapItems_prefix {filters : Nat}
    {early late whole : Json → Evaluate Json} {items all : List Json}
    (begins : items <+: all)
    (each : ∀ item ∈ items,
      InStep bindings merged paged Agreed (early item) (late item) (whole item))
    (beyond : ∀ item ∈ all, Alone bindings merged (late item) (whole item))
    (index : Nat) :
    InStep bindings merged paged Agreed (mapItems filters early items index)
      (mapItems filters late all index) (mapItems filters whole all index) := by
  induction items generalizing all index with
  | nil =>
      refine inStep_of_alone (fun paged => ?_) fun _ => rfl
      exact inStep_mapItems (fun item member => beyond item member paged) index
  | cons item items induction =>
      obtain ⟨rest, rfl⟩ := begins
      rw [List.cons_append] at beyond ⊢
      unfold mapItems
      refine InStep.bind (inStep_modify ?_) fun _ _ _ _ => ?_
      · exact fun _ _ _ abreast =>
          { abreast with pending := rfl, rejected := rfl }
      refine (inStep_within (each item List.mem_cons_self)).bind ?_
      intro _ second third same
      refine inStep_get.bind fun _ late whole abreast => ?_
      refine (induction (List.prefix_append items rest)
        (fun other member => each other (List.mem_cons_of_mem _ member))
        (fun other member => beyond other (List.mem_cons_of_mem _ member))
          _).bind ?_
      intro _ seconds thirds sameOutputs
      apply inStep_pure
      unfold Agreed at same sameOutputs ⊢
      rw [same, sameOutputs, abreast.rejected]

/-! ### Dictionaries -/

/-- Dictionaries of the late and the whole evaluation are the same, and the
early one has the same keys. -/
def SameKeys (first second third : Entries Json) : Prop :=
  second = third ∧
    ∀ key, Entries.contains first key = Entries.contains third key

theorem SameKeys.put {first second third : Entries Json}
    (same : SameKeys first second third) (key : String) (early value : Json) :
    SameKeys (Entries.put first key early) (Entries.put second key value)
      (Entries.put third key value) := by
  refine ⟨by rw [same.1], fun other => ?_⟩
  have others := same.2 other
  simp only [Entries.contains_eq_isSome] at others ⊢
  by_cases equal : key = other
  · subst other
    rw [Entries.lookup?_put_same, Entries.lookup?_put_same]
    rfl
  · rw [Entries.lookup?_put_other _ _ equal,
      Entries.lookup?_put_other _ _ equal, others]

/-- Only scalars are written as dictionary keys. -/
theorem fails_dictionaryKey_or (key : Json) :
    Fails (dictionaryKey key) ∨
      key.isCollection = false ∧ ∃ text, dictionaryKey key = pure text := by
  have invalid : Fails (failAt (.invalidKey · key.kind) : Evaluate String) :=
    fails_failAt _
  cases key with
  | string text => exact Or.inr ⟨rfl, text, rfl⟩
  | bool value => exact Or.inr ⟨rfl, _, rfl⟩
  | number value => exact Or.inr ⟨rfl, _, rfl⟩
  | null => exact Or.inl invalid
  | array items => exact Or.inl invalid
  | object members => exact Or.inl invalid

theorem inStep_insertEntry {first second third : Entries Json}
    {early entry : Json}
    (same : SameKeys first second third) (sameEntry : early.SameEntry entry) :
    InStep bindings merged paged SameKeys (insertEntry first early)
      (insertEntry second entry) (insertEntry third entry) := by
  rcases sameEntry with
    ⟨rfl, rfl⟩ | ⟨key, member, otherKey, otherMember, rfl, rfl, resembles⟩
  · exact inStep_pure same
  · unfold insertEntry
    rcases fails_dictionaryKey_or otherKey with fails | ⟨scalar, text, keyed⟩
    · exact inStep_of_late (fails.bind _) (fails.bind _)
    · have sameKey : key = otherKey := by
        rcases resembles with equal | ⟨_, collection⟩
        · exact equal
        · rw [scalar] at collection
          cases collection
      subst key
      simp only [keyed, pure_bind]
      rw [same.1, same.2 text]
      split
      · exact inStep_of_late (fails_failAt _) (fails_failAt _)
      · have later := same.put text member otherMember
        rw [same.1] at later
        exact inStep_pure later

theorem inStep_entry {early late whole : Evaluate Json}
    {first second third : Entries Json}
    (entry :
      InStep bindings merged paged (fun first second third => second = third ∧
        first.SameEntry third) early late whole)
    (same : SameKeys first second third) (segment : PathSegment) :
    InStep bindings merged paged SameKeys
      (within segment (do let entry ← early; insertEntry first entry))
      (within segment (do let entry ← late; insertEntry second entry))
      (within segment (do let entry ← whole; insertEntry third entry)) := by
  apply inStep_within
  refine entry.bind ?_
  rintro _ _ value ⟨rfl, sameEntry⟩
  exact inStep_insertEntry same sameEntry

theorem inStep_addEntries {early late whole : Json → Evaluate Json}
    {items : List Json}
    (each : ∀ item ∈ items,
      InStep bindings merged paged (fun first second third => second = third ∧
        first.SameEntry third) (early item) (late item) (whole item))
    (index : Nat) {first second third : Entries Json}
    (same : SameKeys first second third) :
    InStep bindings merged paged SameKeys (addEntries early items index first)
      (addEntries late items index second)
        (addEntries whole items index third) := by
  induction items generalizing index first second third with
  | nil => exact inStep_pure same
  | cons item items induction =>
      unfold addEntries
      refine (inStep_entry (each item List.mem_cons_self) same _).bind ?_
      intro _ _ _ later
      exact induction
        (fun other member => each other (List.mem_cons_of_mem _ member))
        _ later

/-- The early evaluation sees a prefix of the items. -/
theorem inStep_addEntries_prefix {early late whole : Json → Evaluate Json}
    {items all : List Json} (begins : items <+: all)
    (each : ∀ item ∈ items,
      InStep bindings merged paged (fun first second third => second = third ∧
        first.SameEntry third) (early item) (late item) (whole item))
    (beyond : ∀ item ∈ all, ∀ paged,
      InStep bindings merged paged (fun first second third => second = third ∧
        first.SameEntry third) (late item) (late item) (whole item))
    (index : Nat) {first second third : Entries Json}
    (same : SameKeys first second third) :
    InStep bindings merged paged Agreed (addEntries early items index first)
      (addEntries late all index second)
        (addEntries whole all index third) := by
  induction items generalizing all index first second third with
  | nil =>
      obtain ⟨rfl, _⟩ := same
      refine inStep_of_alone (fun paged => ?_) fun _ => rfl
      exact (inStep_addEntries (fun item member => beyond item member paged)
        index ⟨rfl, fun _ => rfl⟩).weaken fun _ _ _ later => later.1
  | cons item items induction =>
      obtain ⟨rest, rfl⟩ := begins
      rw [List.cons_append] at beyond ⊢
      unfold addEntries
      refine (inStep_entry (each item List.mem_cons_self) same _).bind ?_
      intro _ _ _ later
      exact induction (List.prefix_append items rest)
        (fun other member => each other (List.mem_cons_of_mem _ member))
        (fun other member => beyond other (List.mem_cons_of_mem _ member)) _
          later

/-! ### Single values -/

theorem inStep_required {early late whole : Evaluate Json}
    (inside : InStep bindings merged paged post early late whole)
    (null : ∀ first second third, post first second third →
      first.isNull = third.isNull ∧ second = third) :
    InStep bindings merged paged post (required early) (required late)
      (required whole) := by
  unfold required
  refine InStep.bind (inStep_modify ?_) fun _ _ _ _ => ?_
  · exact fun _ _ _ abreast => { abreast with }
  refine inside.bind fun first second third holds => ?_
  obtain ⟨sameNull, rfl⟩ := null _ _ _ holds
  rw [sameNull]
  split
  · exact inStep_of_early (fun state => ⟨_, state, rfl⟩)
      (fun state => ⟨_, state, rfl⟩)
  · exact inStep_pure holds

theorem inStep_narrowed {typeName : String} {mode : NarrowingMode}
    {early late whole : Json → Evaluate Json} {value other : Json}
    (null : value.isNull = other.isNull)
    (sameType : (value.member? typenameKey).bind Json.text? =
      (other.member? typenameKey).bind Json.text?)
    (absentPost : post .null .null .null)
    (inside : InStep bindings merged paged post (early value) (late value)
      (whole other)) :
    InStep bindings merged paged post (narrowed typeName mode early value)
      (narrowed typeName mode late value)
        (narrowed typeName mode whole other) := by
  have gone : InStep bindings merged paged post absent absent absent := by
    refine inStep_absent.weaken ?_
    rintro _ _ _ ⟨rfl, rfl, rfl⟩
    exact absentPost
  have typename : InStep bindings merged paged
      (fun first second third => first = third ∧ second = third)
      (typenameOf value) (typenameOf value) (typenameOf other) := by
    unfold typenameOf
    rw [sameType]
    split
    · exact inStep_pure ⟨rfl, rfl⟩
    · exact inStep_of_early (fails_failAt _) (fails_failAt _)
  cases present : value.isNull with
  | true =>
      have isNull : ∀ {value : Json}, value.isNull = true → value = .null := by
        intro value null
        cases value <;> simp_all [Json.isNull]
      obtain rfl := isNull present
      obtain rfl := isNull (null.symm.trans present)
      cases mode with
      | filter => exact gone
      | cast => exact inStep_of_early (fails_failAt _) (fails_failAt _)
  | false =>
      have otherPresent := null.symm.trans present
      cases mode with
      | filter =>
          rw [narrowed_filter present, narrowed_filter present,
            narrowed_filter otherPresent]
          refine typename.bind ?_
          rintro _ received _ ⟨rfl, rfl⟩
          split
          · refine InStep.bind (inStep_modify ?_) fun _ _ _ _ => inside
            intro first second third abreast
            exact { abreast with pending := by rw [abreast.pending] }
          · exact gone
      | cast =>
          rw [narrowed_cast present, narrowed_cast present,
            narrowed_cast otherPresent]
          refine typename.bind ?_
          rintro _ received _ ⟨rfl, rfl⟩
          split
          · exact inside
          · exact inStep_of_early (fails_failAt _) (fails_failAt _)

theorem inStep_fieldPrograms {early late : Option AllNodes}
    {fields : List (String × Program)} {value other : Json}
    (each : ∀ field ∈ fields, InStep bindings merged paged Agreed
      (program early field.2 value) (program late field.2 value)
      (program none field.2 other)) :
    InStep bindings merged paged Agreed (fieldPrograms early fields value)
      (fieldPrograms late fields value) (fieldPrograms none fields other) := by
  induction fields with
  | nil => exact inStep_pure rfl
  | cons field fields induction =>
      unfold fieldPrograms
      refine (each field List.mem_cons_self).bind fun _ _ _ same => ?_
      refine (induction fun other member => each other
        (List.mem_cons_of_mem _ member)).bind fun _ _ _ sameMembers => ?_
      apply inStep_pure
      unfold Agreed at same sameMembers ⊢
      rw [same, sameMembers]

end Evaluate

end GraphPipeline
