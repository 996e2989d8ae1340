import GraphPipeline.Proofs.Evaluation.Standing
import GraphPipeline.Proofs.Safety

/-!
# Places of the errors of single actions

Each action on a value of the data, started where the value stands, fails with
an error whose path names the place of the value at fault.  Actions that
evaluate parts of a program do so if these evaluations do.
-/

namespace GraphPipeline.Evaluate

variable {α : Type} {inPlace : Prop} {whole : Program} {data value : Json}
  {trail : List PathSegment} {place : ResponsePath}
  {bindings : Nat → Option Json}

/-! ### Reading members, items and leaves -/

section reading

variable {recorded : ResponsePath}

theorem null_placed (standing : Standing inPlace data recorded place .null) :
    (ExtractionError.unexpectedNull recorded).IsPlaced whole data inPlace :=
  ⟨place, standing.toNames, standing.found⟩

theorem unsuitable_placed
    (standing : Standing inPlace data recorded place value)
    (present : value.isNull = false) {expected : String}
    (unsuitable : value.Unsuitable whole expected) :
    (ExtractionError.invalidValue recorded expected value.kind).IsPlaced
      whole data inPlace :=
  ⟨place, standing.toNames, value, standing.found, present, rfl, unsuitable⟩

/-- All that comes before a key leads somewhere. -/
theorem missing_placed (standing : Standing inPlace data recorded place value)
    (name : String) :
    (ExtractionError.missingField (recorded.child (.key name))).IsPlaced
      whole data inPlace := by
  refine ⟨place ++ [PathSegment.key name], standing.toNames.child (.key name),
    by simp, ?_⟩
  intro shorter isPrefix different
  rcases List.prefix_concat_iff.mp isPrefix with same | ⟨more, rfl⟩
  · exact absurd same different
  · have found := standing.found
    rw [Json.follow?_append] at found
    obtain ⟨_, inside, _⟩ := Option.bind_eq_some_iff.mp found
    rw [inside]
    rfl

end reading

theorem memberOf_stays
    (standing : Standing inPlace data trail.reverse place value)
    (key : String) :
    Stays inPlace whole data trail bindings
      (fun member => value.member? key = some member) (memberOf value key) := by
  apply atPath_stays
  · intro member computed
    cases value with
    | object members =>
        cases known : Entries.lookup? members key with
        | none => simp [known] at computed
        | some other =>
            simp only [known, Except.ok.injEq] at computed
            rw [← computed]
            exact known
    | null => cases computed
    | bool value => cases computed
    | number value => cases computed
    | string value => cases computed
    | array items => cases computed
  · intro error computed
    have unsuitable :
        (∀ members, value ≠ .object members) → value.isNull = false →
          (ExtractionError.invalidValue trail.reverse "an object"
            value.kind).IsPlaced
            whole data inPlace :=
      fun noObject present =>
        unsuitable_placed standing present (.object noObject)
    cases value with
    | object members =>
        cases known : Entries.lookup? members key with
        | none =>
            simp only [known, Except.error.injEq] at computed
            rw [← computed]
            exact missing_placed standing key
        | some other => simp [known] at computed
    | null =>
        cases computed
        exact null_placed standing
    | bool value =>
        cases computed
        exact unsuitable (fun _ same => by cases same) rfl
    | number value =>
        cases computed
        exact unsuitable (fun _ same => by cases same) rfl
    | string value =>
        cases computed
        exact unsuitable (fun _ same => by cases same) rfl
    | array items =>
        cases computed
        exact unsuitable (fun _ same => by cases same) rfl

theorem itemsOf_stays
    (standing : Standing inPlace data trail.reverse place value) :
    Stays inPlace whole data trail bindings (fun items => value = .array items)
      (itemsOf value) := by
  apply atPath_stays
  · intro items computed
    cases value with
    | array others =>
        cases computed
        rfl
    | null => cases computed
    | bool value => cases computed
    | number value => cases computed
    | string value => cases computed
    | object members => cases computed
  · intro error computed
    have unsuitable : (∀ items, value ≠ .array items) → value.isNull = false →
        (ExtractionError.invalidValue trail.reverse "a list"
          value.kind).IsPlaced
          whole data inPlace :=
      fun noList present => unsuitable_placed standing present (.list noList)
    cases value with
    | array items => cases computed
    | null =>
        cases computed
        exact null_placed standing
    | bool value =>
        cases computed
        exact unsuitable (fun _ same => by cases same) rfl
    | number value =>
        cases computed
        exact unsuitable (fun _ same => by cases same) rfl
    | string value =>
        cases computed
        exact unsuitable (fun _ same => by cases same) rfl
    | object members =>
        cases computed
        exact unsuitable (fun _ same => by cases same) rfl

section leaves

variable {key : String} {type : TypeRef}

mutual

theorem checkLeaf_stays (part : whole.PartOf (.readScalar key type))
    (leaf : Json)
    {trail : List PathSegment} {place : ResponsePath} {wrapping : Wrapping}
    (inside : type.wrapping.Inside wrapping)
    (standing : Standing inPlace data trail.reverse place leaf) :
    Stays inPlace whole data trail bindings (fun _ => True)
      (checkLeaf type.name type.kind leaf wrapping) := by
  have rejected :
      ∀ expected, leaf.isNull = false → leaf.Unsuitable whole expected →
        Stays inPlace whole data trail bindings (fun _ => True)
          (failAt (.invalidValue · expected leaf.kind) : Evaluate Unit) := by
    intro expected present unsuitable
    apply failAt_placed standing.toNames rfl
    exact ⟨leaf, standing.found, present, rfl, unsuitable⟩
  have kindChecked : leaf.isNull = false →
      Stays inPlace whole data trail bindings (fun _ => True)
        (checkKind type.name type.kind leaf) := by
    intro present
    unfold checkKind
    split
    · exact stays_pure trivial
    · rename_i refused
      exact rejected _ present
        (.leaf part (Bool.eq_false_of_not_eq_true refused))
  have singleChecked : leaf.isNull = false → (∀ items, leaf ≠ .array items) →
      Stays inPlace whole data trail bindings (fun _ => True)
        (checkSingle type.name type.kind leaf wrapping) := by
    intro present noList
    unfold checkSingle
    split
    · rename_i list
      exact rejected _ present (.leafList part inside list noList)
    · exact kindChecked present
  cases leaf with
  | null =>
      unfold checkLeaf
      split
      · apply failAt_placed standing.toNames rfl
        exact standing.found
      · exact stays_pure trivial
  | array items =>
      unfold checkLeaf
      cases elementOf : wrapping.element? with
      | some element =>
          exact checkItems_stays part items 0 (inside.element elementOf)
            standing.itemsStand
      | none => exact kindChecked rfl
  | bool value =>
      simpa only [checkLeaf] using singleChecked rfl fun _ same => by cases same
  | number value =>
      simpa only [checkLeaf] using singleChecked rfl fun _ same => by cases same
  | string value =>
      simpa only [checkLeaf] using singleChecked rfl fun _ same => by cases same
  | object members =>
      simpa only [checkLeaf] using singleChecked rfl fun _ same => by cases same
termination_by structural leaf

theorem checkItems_stays (part : whole.PartOf (.readScalar key type))
    (items : List Json) (start : Nat) {trail : List PathSegment}
    {place : ResponsePath} {wrapping : Wrapping}
    (inside : type.wrapping.Inside wrapping)
    (stand : ItemsStand inPlace data trail.reverse place items start) :
    Stays inPlace whole data trail bindings (fun _ => True)
      (checkItems type.name type.kind items wrapping start) := by
  cases items with
  | nil => exact stays_pure trivial
  | cons item items =>
      unfold checkItems
      have below :
          Standing inPlace data (PathSegment.index start :: trail).reverse
            (place ++ [.index start]) item := by
        rw [List.reverse_cons]
        exact stand.head
      apply Stays.bind (within_stays (checkLeaf_stays part item inside below))
      intro _ _
      exact checkItems_stays part items (start + 1) inside stand.tail
termination_by structural items

end

theorem readLeaf_locates (part : whole.PartOf (.readScalar key type))
    (standing : Standing inPlace data trail.reverse place value)
    {post : Json → Prop}
    (any : ∀ leaf, post leaf) :
    Locates inPlace whole data trail bindings post
      (readLeaf key type value) := by
  unfold readLeaf
  apply Stays.bind (memberOf_stays standing key)
  intro leaf member
  have below : Standing inPlace data (PathSegment.key key :: trail).reverse
      (place ++ [.key key]) leaf := by
    rw [List.reverse_cons]
    exact standing.child member
  apply within_locates
  by_cases null : leaf = .null
  · subst leaf
    simp only [Json.isNull, if_true, checkLeaf]
    have marking : Triple (AtTrail (.key key :: trail) bindings)
        (fun _ state => AtTrail (.key key :: trail) bindings state ∧
          Marked inPlace whole data state)
        (ExtractionError.IsPlaced whole data inPlace)
        (modify fun state => { state with absentAt := some state.trail }) := by
      apply triple_modify
      rintro state ⟨sameTrail, rfl⟩
      refine ⟨⟨sameTrail, rfl⟩, state.trail, _, rfl, ?_, Or.inl below.found⟩
      rw [sameTrail]
      exact below.toNames
    apply Triple.bind marking
    intro _
    split
    · apply (failAt_placed below.toNames rfl _).imp (fun _ marked => marked.1)
        fun _ _ held => held
      exact below.found
    · apply triple_pure
      rintro state ⟨start, marked⟩
      exact ⟨start, any _, fun _ => marked⟩
  · have present := Json.isNull_eq_false null
    simp only [present, Bool.false_eq_true, if_false]
    apply Stays.bind (checkLeaf_stays part leaf .here below)
    intro _ _
    exact pure_locates (any leaf) present

end leaves

/-! ### Lists -/

theorem mapItems_stays {filters : Nat} {evaluate : Json → Evaluate Json}
    {items : List Json} {start : Nat}
    (each : ∀ index item, items[index]? = some item →
      Stays inPlace whole data (.index (start + index) :: trail) bindings
        (fun _ => True)
        (evaluate item)) :
    Stays inPlace whole data trail bindings (fun _ => True)
      (mapItems filters evaluate items start) := by
  induction items generalizing start with
  | nil => exact stays_pure trivial
  | cons item items induction =>
      unfold mapItems
      refine Stays.bind (modify_stays ?_ ?_) ?_
      · exact fun _ => rfl
      · exact fun _ => rfl
      intro _ _
      apply Stays.bind (within_stays (each 0 item rfl))
      intro output _
      apply Triple.bind triple_get
      intro state
      apply Triple.of_each
      rintro last ⟨rfl, start'⟩
      have later : Stays inPlace whole data trail bindings (fun _ => True)
          (mapItems filters evaluate items (start + 1)) := by
        apply induction
        intro index other same
        rw [Nat.add_assoc, Nat.add_comm 1]
        exact each (index + 1) other same
      have collected :
          Stays inPlace whole data trail bindings (fun _ => True) (do
          let outputs ← mapItems filters evaluate items (start + 1)
          pure (if state.rejected then outputs else output :: outputs)) :=
        Stays.bind later fun _ _ => stays_pure trivial
      apply collected.imp
      · rintro _ rfl
        exact start'
      · exact fun _ _ held => held

/-- The keys of a dictionary are those of the entries of earlier elements. -/
def Earlier (data : Json) (list : ResponsePath) (entry : Program) (index : Nat)
    (dictionary : Entries Json) : Prop :=
  ∀ key, Entries.contains dictionary key = true → ∃ earlier value,
    earlier < index ∧ YieldsEntry data (list ++ [.index earlier]) entry value ∧
      value.keyText? = some key

theorem Earlier.empty {list : ResponsePath} {entry : Program} :
    Earlier data list entry 0 [] := by
  intro key contained
  cases contained

theorem Earlier.mono {list : ResponsePath} {entry : Program} {index : Nat}
    {dictionary : Entries Json}
    (earlier : Earlier data list entry index dictionary) :
    Earlier data list entry (index + 1) dictionary := by
  intro key contained
  obtain ⟨before, value, less, facts⟩ := earlier key contained
  exact ⟨before, value, Nat.lt_succ_of_lt less, facts⟩

theorem contains_put {entries : Entries Json} {key other : String}
    {value : Json}
    (contained :
      Entries.contains (Entries.put entries key value) other = true) :
    Entries.contains entries other = true ∨ other = key := by
  rw [Entries.contains_eq_isSome] at contained ⊢
  by_cases same : key = other
  · exact Or.inr same.symm
  · rw [Entries.lookup?_put_other _ _ same] at contained
    exact Or.inl contained

theorem Earlier.put {list : ResponsePath} {entry : Program} {index : Nat}
    {dictionary : Entries Json} {key value : Json} {text : String}
    (earlier : Earlier data list entry index dictionary)
    (yields : YieldsEntry data (list ++ [.index index]) entry key)
    (written : key.keyText? = some text) :
    Earlier data list entry (index + 1)
      (Entries.put dictionary text value) := by
  intro other contained
  rcases contains_put contained with old | rfl
  · exact earlier.mono other old
  · exact ⟨index, key, Nat.lt_succ_self _, yields, written⟩

theorem dictionaryKey_stays {key : Json}
    (names : Names inPlace trail.reverse place)
    (invalid : key.keyText? = none →
      (ExtractionError.invalidKey trail.reverse key.kind).IsAbout whole data
        place) :
    Stays inPlace whole data trail bindings
      (fun text => key.keyText? = some text)
      (dictionaryKey key) := by
  cases key with
  | string key => exact stays_pure rfl
  | bool value => exact stays_pure rfl
  | number value => exact stays_pure rfl
  | null =>
      unfold dictionaryKey
      apply failAt_placed names rfl
      exact invalid rfl
  | array items =>
      unfold dictionaryKey
      apply failAt_placed names rfl
      exact invalid rfl
  | object members =>
      unfold dictionaryKey
      apply failAt_placed names rfl
      exact invalid rfl

theorem insertEntry_stays {entry : Program} {list : ResponsePath} {index : Nat}
    {dictionary : Entries Json} {output : Json}
    (part : whole.PartOf (.toDictionary entry)) (shape : output.IsEntry)
    (names : Names inPlace trail.reverse (list ++ [.index index]))
    (earlier : Earlier data list entry index dictionary)
    (yields : ∀ key value, output = .array [key, value] →
      YieldsEntry data (list ++ [.index index]) entry key) :
    Stays inPlace whole data trail bindings
      (Earlier data list entry (index + 1))
      (insertEntry dictionary output) := by
  rcases shape with rfl | ⟨key, value, rfl⟩
  · exact stays_pure earlier.mono
  · have yielded := yields key value rfl
    unfold insertEntry
    apply Stays.bind (dictionaryKey_stays names _)
    · intro text written
      split
      · rename_i contained
        obtain ⟨before, second, less, otherYields, otherWritten⟩ :=
          earlier text contained
        apply failAt_placed names rfl
        exact ⟨list, index, before, entry, key, second, rfl, less, part,
          yielded, written, otherYields, otherWritten⟩
      · exact stays_pure (earlier.put yielded written)
    · intro unwritten
      exact ⟨list, index, entry, key, rfl, part, yielded, unwritten, rfl⟩

theorem addEntries_stays {entry : Program}
    (part : whole.PartOf (.toDictionary entry))
    {items : List Json} {start : Nat} {dictionary : Entries Json}
    (passed : Passed data trail.reverse bindings)
    (earlier : Earlier data place entry start dictionary)
    (stand : ItemsStand inPlace data trail.reverse place items start)
    (each : ∀ index item, items[index]? = some item →
      Stays inPlace whole data (.index (start + index) :: trail) bindings
        Json.IsEntry
        (program none entry item)) :
    Stays inPlace whole data trail bindings (fun _ => True)
      (addEntries (program none entry) items start dictionary) := by
  induction items generalizing start dictionary with
  | nil => exact stays_pure trivial
  | cons item items induction =>
      unfold addEntries
      have standing :
          Standing inPlace data (PathSegment.index start :: trail).reverse
            (place ++ [.index start]) item := by
        rw [List.reverse_cons]
        exact stand.head
      have inserted : Stays inPlace whole data (.index start :: trail) bindings
          (Earlier data place entry (start + 1))
          (do insertEntry dictionary (← program none entry item)) := by
        apply Triple.bind (each 0 item rfl).remember
        intro output
        apply Triple.of_each
        rintro state ⟨⟨start', shape⟩, run, ⟨sameTrail, sameBindings⟩, ran⟩
        apply Triple.imp
          (insertEntry_stays part shape standing.toNames earlier _)
        · rintro _ rfl
          exact start'
        · exact fun _ _ held => held
        · rintro key value rfl
          have path : run.path = (PathSegment.index start :: trail).reverse :=
            congrArg List.reverse sameTrail
          refine ⟨item, value, run, standing.found, ?_, ?_, ran⟩
          · rw [path]
            exact standing.sublist
          · rw [path, sameBindings, List.reverse_cons]
            exact passed.mono (List.sublist_append_left _ _)
      apply Stays.bind (within_stays inserted)
      intro extended extendedEarlier
      apply induction extendedEarlier stand.tail
      intro index other same
      rw [Nat.add_assoc, Nat.add_comm 1]
      exact each (index + 1) other same

/-! ### Nulls, types and pages -/

theorem required_locates {post : Json → Prop} {action : Evaluate Json}
    (inside : Locates inPlace whole data trail bindings post action) :
    Locates inPlace whole data trail bindings post (required action) := by
  unfold required
  refine Stays.bind (modify_stays ?_ ?_) ?_
  · exact fun _ => rfl
  · exact fun _ => rfl
  intro _ _
  apply Triple.bind inside
  intro result
  split
  · rename_i null
    apply Triple.bind triple_get
    intro found
    apply Triple.of_each
    rintro state ⟨rfl, _, _, marked⟩
    obtain ⟨mark, missingPlace, sameMark, names, missing⟩ := marked null
    apply Triple.bind (triple_throw _)
    · intro _
      exact triple_pure fun _ held => held
    · rw [sameMark]
      exact ⟨missingPlace, names, missing⟩
  · rename_i present
    apply triple_pure
    rintro state ⟨start, holds, _⟩
    exact ⟨start, holds, fun null => absurd null present⟩

theorem typenameOf_stays (present : value.isNull = false)
    (standing : Standing inPlace data trail.reverse place value) :
    Stays inPlace whole data trail bindings
      (fun name => value.typename? = some name)
      (typenameOf value) := by
  unfold typenameOf
  split
  · rename_i name known
    exact stays_pure known
  · rename_i unknown
    apply failAt_placed standing.toNames rfl
    exact ⟨value, standing.found, present, unknown⟩

theorem narrowed_locates {typeName : String} {mode : NarrowingMode}
    {inner : Program} {post : Json → Prop} {evaluate : Json → Evaluate Json}
    (part : whole.PartOf (.narrow typeName mode inner))
    (standing : Standing inPlace data trail.reverse place value)
    (null : post .null)
    (inside : Locates inPlace whole data trail bindings post (evaluate value)) :
    Locates inPlace whole data trail bindings post
      (narrowed typeName mode evaluate value) := by
  by_cases isNull : value = .null
  · subst value
    cases mode with
    | filter =>
      exact absent_locates null standing.toNames (Or.inl standing.found)
    | cast =>
        apply failAt_placed standing.toNames rfl
        exact standing.found
  · have present := Json.isNull_eq_false isNull
    cases mode with
    | filter =>
        rw [narrowed_filter present]
        apply Stays.bind (typenameOf_stays present standing)
        intro received named
        split
        · refine Stays.bind (modify_stays ?_ ?_) ?_
          · exact fun _ => rfl
          · exact fun _ => rfl
          · exact fun _ _ => inside
        · rename_i different
          exact absent_locates null standing.toNames (Or.inr
            ⟨value, typeName, inner, received, standing.found, part, named,
             different⟩)
    | cast =>
        rw [narrowed_cast present]
        apply Stays.bind (typenameOf_stays present standing)
        intro received named
        split
        · exact inside
        · rename_i different
          apply failAt_placed standing.toNames rfl
          exact ⟨value, inner, standing.found, part, named, different⟩

/-- What is missing from a page is missing below its connection. -/
theorem page_read_placed {keys : PageKeys} {recorded : ResponsePath}
    {error : ExtractionError}
    (standing : Standing inPlace data recorded place value)
    (failed : Page.read value keys recorded = .error error) :
    error.IsPlaced whole data inPlace := by
  unfold Page.read at failed
  rcases bind_error failed with noObject | ⟨members, isObject, afterObject⟩
  · unfold Page.objectAt at noObject
    split at noObject
    · cases noObject
    · cases noObject
      exact null_placed standing
    · rename_i noMembers noNull
      cases noObject
      exact unsuitable_placed standing (Json.isNull_eq_false noNull)
        (.object fun members same => noMembers members same)
  have sameValue : value = .object members := by
    unfold Page.objectAt at isObject
    split at isObject
    · cases isObject
      rfl
    · cases isObject
    · cases isObject
  subst sameValue
  rcases bind_error afterObject with noInfo | ⟨pageInfo, isInfo, afterInfo⟩
  · unfold Page.pageInfoAt at noInfo
    split at noInfo
    · cases noInfo
    · cases noInfo
      exact missing_placed standing keys.pageInfo
  rcases bind_error afterInfo with noFlag | ⟨hasNextPage, _, afterFlag⟩
  · unfold Page.hasNextPageAt at noFlag
    split at noFlag
    · cases noFlag
    · cases noFlag
      unfold Page.pageInfoAt at isInfo
      split at isInfo
      · rename_i info known
        obtain ⟨below, member, _⟩ := Option.bind_eq_some_iff.mp known
        have infoStanding :
            Standing inPlace data (recorded ++ [.key keys.pageInfo])
              (place ++ [.key keys.pageInfo]) below := standing.child member
        exact missing_placed infoStanding keys.hasNextPage
      · cases isInfo
  rcases bind_error afterFlag with noNodes | ⟨nodes, _, complete⟩
  · unfold Page.nodesAt at noNodes
    split at noNodes
    · cases noNodes
    · cases noNodes
    · rename_i other noList noNull known
      cases noNodes
      have below : Standing inPlace data (recorded ++ [.key keys.nodes])
          (place ++ [.key keys.nodes]) other := standing.child known
      exact unsuitable_placed below (Json.isNull_eq_false noNull)
        (.list fun items same => noList items same)
    · cases noNodes
      exact missing_placed standing keys.nodes
  · cases complete

theorem nodesOf_stays {id : SubqueryId} {keys : PageKeys}
    (standing : Standing inPlace data trail.reverse place value) :
    Stays inPlace whole data trail bindings
      (fun nodes => ∃ member, value.member? keys.nodes = some member ∧
        nodes = if member.isNull then .array [] else member)
      (nodesOf none id keys value) := by
  have recorded : Stays inPlace whole data trail bindings (fun _ => True)
      (recordPage id keys value) := by
    unfold recordPage
    apply Triple.bind triple_get
    intro state
    apply Triple.of_each
    rintro last ⟨rfl, start⟩
    cases state.pages.lookup? id with
    | some page =>
        apply triple_pure
        rintro _ rfl
        exact ⟨start, trivial⟩
    | none =>
        have recording :
            ∀ page,
              Stays inPlace whole data trail bindings (fun _ => True)
                (modify fun state =>
                  { state with pages := state.pages ++ [(id, page)] }) := by
          intro page
          apply modify_stays
          · exact fun _ => rfl
          · exact fun _ => rfl
        have reading : Stays inPlace whole data trail bindings (fun _ => True)
            (atPath (Page.read value keys)) :=
          atPath_stays (fun _ _ => trivial)
            fun error failed => page_read_placed standing failed
        apply Triple.imp (reading.bind fun page _ => recording page)
        · rintro _ rfl
          exact start
        · exact fun _ _ held => held
  unfold nodesOf
  apply Stays.bind (memberOf_stays standing keys.nodes)
  intro member known
  apply Stays.bind recorded
  intro _ _
  exact stays_pure ⟨member, known, rfl⟩

end GraphPipeline.Evaluate
