import GraphPipeline.Proofs.Compile.ListFilters
import GraphPipeline.Proofs.Mirroring

/-!
# Lists after their filters

A compiled list keeps the elements that come through the first filters on their
way, as many as are applied to the list.  Those are the filters of the list,
unless a projection filters before one of them.
-/

namespace GraphPipeline

namespace Program

/-- The data of a response gives a value, with the nodes of all pages or on a
first evaluation. -/
def Yields (program : Program) (given : Option AllNodes) (data value : Json) :
    Prop :=
  match given with
  | none => ∃ pages, program.collect data = .ok (value, pages)
  | some nodes => program.replay nodes data = .ok value

theorem Yields.runs {program : Program} {given : Option AllNodes}
    {data value : Json}
    (yields : program.Yields given data value) :
    ∃ last,
      (Evaluate.program given program data).Runs (.initial data) value
        last := by
  have result :
      ((Evaluate.program given program data).result (.initial data)).1 =
        .ok value := by
    cases given with
    | none =>
        obtain ⟨pages, collected⟩ := yields
        exact (Evaluate.collect_eq_ok.mp collected).1
    | some nodes => exact yields
  exact ⟨_, Prod.ext result rfl⟩

/-- Whether an element arrives at each filter of its list as an object of the
type of the filter. -/
def meets (program : Program) (filters : List ElementFilter)
    (bindings : Nat → Option Json) (element : Json) : Bool :=
  filters.zipIdx.all fun (filter, index) =>
    !filter.onList || program.passes (index + 1) bindings element

theorem meets_iff {program : Program} {filters : List ElementFilter}
    {bindings : Nat → Option Json} {element : Json} :
    program.meets filters bindings element = true ↔
      ∀ index filter, filters[index]? = some filter → filter.onList = true →
        program.passes (index + 1) bindings element = true := by
  simp only [meets, List.all_eq_true, Bool.or_eq_true, Bool.not_eq_true',
    Prod.forall, List.mem_zipIdx_iff_getElem?]
  constructor
  · intro each index filter found onList
    rcases each filter index found with projected | passed
    · rw [onList] at projected
      cases projected
    · exact passed
  · intro each filter index found
    cases onList : filter.onList with
    | true => exact Or.inr (each index filter found onList)
    | false => exact Or.inl rfl

/-- What comes through some filters comes through all but the last of them. -/
theorem passes_of_succ (program : Program) {count : Nat}
    {bindings : Nat → Option Json} {value : Json}
    (passed : program.passes (count + 1) bindings value = true) :
    program.passes count bindings value = true := by
  cases count with
  | zero => simp [passes]
  | succ count =>
      cases program with
      | field key inner =>
          simp only [passes] at passed ⊢
          split at passed
          · exact passes_of_succ inner passed
          · cases passed
      | optional inner =>
          simp only [passes, Bool.and_eq_true] at passed ⊢
          exact ⟨passed.1, passes_of_succ inner passed.2⟩
      | narrow typeName mode inner =>
          cases mode with
          | filter =>
              simp only [passes, Bool.and_eq_true] at passed ⊢
              exact ⟨passed.1, passes_of_succ inner passed.2⟩
          | cast =>
              simp only [passes, Bool.and_eq_true] at passed ⊢
              exact ⟨passed.1, passes_of_succ inner passed.2⟩
      | bind depth inner =>
          simp only [passes] at passed ⊢
          exact passes_of_succ inner passed
      | parameter depth inner =>
          simp only [passes] at passed ⊢
          split at passed
          · exact passes_of_succ inner passed
          · cases passed
      | readScalar key type => cases passed
      | mapList filters inner => cases passed
      | buildRecord fields => cases passed
      | enforceSingle inner => cases passed
      | toDictionary entry => cases passed
      | keyValue key inner => cases passed
      | subquerySink id keys inner => cases passed
termination_by structural program

theorem passes_of_le {program : Program} {fewer more : Nat}
    (below : fewer ≤ more)
    {bindings : Nat → Option Json} {value : Json}
    (passed : program.passes more bindings value = true) :
    program.passes fewer bindings value = true := by
  induction below with
  | refl => exact passed
  | step _ induction => exact induction (passes_of_succ program passed)

end Program

namespace ElementFilter

/-- No filter of a projection comes before one that is applied to the list. -/
def ListFirst (filters : List ElementFilter) : Prop :=
  filters.Pairwise
    fun earlier later => later.onList = true → earlier.onList = true

/-- The filters on the list are then the first ones. -/
theorem ListFirst.onList_iff {filters : List ElementFilter}
    (first : ListFirst filters)
    {index : Nat} {filter : ElementFilter}
    (found : filters[index]? = some filter) :
    filter.onList = true ↔ index < filters.countP ElementFilter.onList := by
  induction filters generalizing index with
  | nil => cases found
  | cons head filters induction =>
      obtain ⟨before, others⟩ := List.pairwise_cons.mp first
      cases onList : head.onList with
      | true =>
          rw [List.countP_cons_of_pos onList]
          cases index with
          | zero =>
              obtain rfl := Option.some.inj found
              simp [onList]
          | succ index =>
              rw [induction others found]
              omega
      | false =>
          have none : filters.countP ElementFilter.onList = 0 := by
            apply List.countP_eq_zero.mpr
            intro later member isOn
            rw [before later member isOn] at onList
            cases onList
          rw [List.countP_cons_of_neg (by simp [onList]), none]
          cases index with
          | zero =>
              obtain rfl := Option.some.inj found
              simp [onList]
          | succ index =>
              rw [induction others found, none]
              omega

/-- To arrive at the filters of the list is then to come through the first
ones. -/
theorem ListFirst.meets_eq {filters : List ElementFilter}
    (first : ListFirst filters) (program : Program)
    (bindings : Nat → Option Json) (element : Json) :
    program.meets filters bindings element =
      program.passes (filters.countP ElementFilter.onList) bindings
        element := by
  rw [Bool.eq_iff_iff, Program.meets_iff]
  constructor
  · intro each
    cases counted : filters.countP ElementFilter.onList with
    | zero => simp [Program.passes]
    | succ last =>
        have inside : last < filters.length := by
          have bound :=
            List.countP_le_length (p := ElementFilter.onList) (l := filters)
          omega
        have found := List.getElem?_eq_getElem inside
        apply each last _ found
        rw [first.onList_iff found]
        omega
  · intro passed index filter found onList
    exact Program.passes_of_le ((first.onList_iff found).mp onList) passed

end ElementFilter

/-- The list a compiled pipeline maps is in the result without the elements that
do not come through its filters, which are counted from the first one on the way
of an element. The result is null if there is no list. -/
theorem compiled_list_filtered {pipeline : Pipeline}
    {compiled : CompiledOperation} {filters : List ElementFilter}
    (success : compile pipeline = .ok compiled)
    (maps : pipeline.filtering = .list filters) :
    ∃ inner, compiled.program.mapping? =
        some (filters.countP ElementFilter.onList, inner) ∧
      filters.map ElementFilter.typeName <+: inner.filterTypes ∧
      ∀ given data value, compiled.program.Yields given data value →
        (compiled.program.list? given (EvaluationState.initial data).binding?
            data = none →
          value = .null) ∧
        ∀ bindings items,
          compiled.program.list? given (EvaluationState.initial data).binding?
            data =
              some (bindings, items) →
            ∃ outputs, value = .array outputs ∧
              List.Forall₂ (inner.Gives given bindings)
                (items.filter
                  (inner.passes (filters.countP ElementFilter.onList) bindings))
                    outputs ∧
              (ElementFilter.ListFirst filters →
                List.Forall₂ (inner.Gives given bindings)
                  (items.filter (inner.meets filters bindings)) outputs) := by
  have names : Compile.PageNames fun _ => True := ⟨trivial, trivial, trivial⟩
  obtain ⟨kind, document, outcome⟩ :=
    Compile.outcome_of_compile names (pipeline.eachField fun _ _ => trivial)
      success
  obtain ⟨chain, walks, finished⟩ := outcome.walks
  obtain ⟨lays, _⟩ := walks_lay pipeline outcome.formed walks
  rw [maps] at lays
  obtain ⟨inner, mapping, types⟩ := lays.mapping finished
  refine ⟨inner, mapping, types, ?_⟩
  intro given data value yields
  obtain ⟨last, run⟩ := yields.runs
  have counted :
      filters.countP ElementFilter.onList ≤ inner.filterTypes.length := by
    have bound := types.length_le
    rw [List.length_map] at bound
    exact List.countP_le_length.trans bound
  rcases Evaluate.program_list _ mapping run rfl with
    ⟨noList, null⟩
      | ⟨inside, listed, outputs, first, _, found, same, bound, mapped⟩
  · refine ⟨fun _ => null, ?_⟩
    intro bindings items found
    rw [noList] at found
    cases found
  · constructor
    · intro missing
      rw [found] at missing
      cases missing
    · intro bindings items sameList
      rw [found] at sameList
      obtain ⟨rfl, rfl⟩ := Prod.mk.inj (Option.some.inj sameList)
      have kept := Evaluate.mapItems_filters counted mapped bound
      refine ⟨outputs, same, kept, ?_⟩
      intro listFirst
      have sameKept : inner.meets filters inside =
          inner.passes (filters.countP ElementFilter.onList) inside :=
        funext (listFirst.meets_eq inner inside)
      rw [sameKept]
      exact kept

namespace Sample

def owner : FieldDefinition :=
  { name := "owner", type := TypeRef.interface "Actor", arguments := [] }

def team : FieldDefinition :=
  { name := "team", type := TypeRef.interface "Actor", arguments := [] }

def name : FieldDefinition :=
  { name := "name", type := (TypeRef.scalar .string).nonNull, arguments := [] }

/-- The owner of each item, which is called `i`. -/
def owners : Pipeline :=
  ((Pipeline.root .query).property itemList).selectValue "i"
    ((Pipeline.parameter "i").property owner)

/-- The owners that are users, with the names of their teams. -/
def teamsOfUsers : Pipeline :=
  ((owners.filter "User").selectValue "u"
    ((((Pipeline.parameter "u").property team).filter "Team").property
      name)).toList

/-- The teams of the users that own items, filtered on the list. -/
def usersTeams : Pipeline :=
  (((((Pipeline.root .query).property itemList).selectValue "i"
    ((((Pipeline.parameter "i").property owner).filter "User").property
      team)).filter
      "Team").selectValue "t" ((Pipeline.parameter "t").property name)).toList

/-- An item with an owner of a type. -/
def itemOf (typeName : String) (members : Entries Json) : Json :=
  .object [("owner", .object (("__typename", .string typeName) :: members))]

/-- The item of a user who is in a team. -/
def teamItem : Json :=
  itemOf "User"
    [("team", .object [("__typename", .string "Team"), ("name", .string "a")])]

/-- Items of a user without a team, a user in a team, a bot, and a user in an
organization. -/
def ownedItems : List Json :=
  [itemOf "User" [("team", .null)], teamItem, itemOf "Bot" [],
    itemOf "User" [("team", .object [("__typename", .string "Org")])]]

def itemsData : Json :=
  .object [("items", .array ownedItems)]

/-- The elements of the list a program maps. -/
def elements (compiled : CompiledOperation) : Option (List Json) :=
  (compiled.program.list? none (EvaluationState.initial itemsData).binding?
    itemsData).map Prod.snd

/-- The elements that arrive at each filter of the list. -/
def meeting (filters : List ElementFilter) (compiled : CompiledOperation) :
    Option (List Json) :=
  match compiled.program.mapping?,
    compiled.program.list? none (EvaluationState.initial itemsData).binding?
      itemsData with
  | some (_, inner), some (bindings, items) =>
      some (items.filter (inner.meets filters bindings))
  | _, _ => none

end Sample

/-- Three users are kept, two of whom are in no team. -/
theorem compile_teamsOfUsers_filtered :
    ∃ compiled, compile Sample.teamsOfUsers = .ok compiled ∧ ∃ inner : Program,
      ∃ bindings : Nat → Option Json, List.Forall₂ (inner.Gives none bindings)
        (Sample.ownedItems.filter
          (inner.meets [⟨"User", true⟩, ⟨"Team", false⟩] bindings))
        [.null, .string "a", .null] := by
  have evaluated : (compile Sample.teamsOfUsers).map (fun compiled =>
      (compiled.program.collect Sample.itemsData, Sample.elements compiled)) =
        .ok (.ok (.array [.null, .string "a", .null], []),
             some Sample.ownedItems) := by
    cbv
  have maps :
      Sample.teamsOfUsers.filtering =
        .list [⟨"User", true⟩, ⟨"Team", false⟩] := by
    cbv
  cases success : compile Sample.teamsOfUsers with
  | error error =>
      rw [success] at evaluated
      cases evaluated
  | ok compiled =>
      rw [success] at evaluated
      obtain ⟨collected, listed⟩ := Prod.mk.inj (Except.ok.inj evaluated)
      obtain ⟨⟨bindings, items⟩, found, rfl⟩ := Option.map_eq_some_iff.mp listed
      obtain ⟨inner, _, _, filtered⟩ := compiled_list_filtered success maps
      obtain ⟨outputs, same, _, kept⟩ :=
        (filtered none Sample.itemsData _ ⟨[], collected⟩).2 bindings _ found
      obtain rfl := Json.array.inj same
      refine ⟨compiled, rfl, inner, bindings, kept ?_⟩
      simp [ElementFilter.ListFirst]

/-- Here a projection filters before the list does.  Only one item arrives at
the filter of the list with a team, and all three users are kept. -/
theorem usersTeams_misfiltered :
    Sample.usersTeams.filtering = .list [⟨"User", false⟩, ⟨"Team", true⟩] ∧
      (compile Sample.usersTeams).map (fun compiled =>
        (compiled.program.collect Sample.itemsData,
          Sample.meeting [⟨"User", false⟩, ⟨"Team", true⟩] compiled)) =
        .ok (.ok (.array [.null, .string "a", .null], []),
             some [Sample.teamItem]) := by
  constructor
  · cbv
  · cbv

end GraphPipeline
