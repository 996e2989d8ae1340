import GraphPipeline.Proofs.Conformance
import GraphPipeline.Proofs.Evaluation.Runs
import GraphPipeline.Proofs.TypeTrees

/-!
# Checks of leaves

The value of a leaf is returned as it is if it has the shape its type declares.
Otherwise the error is about the first value inside of it, in document order,
that is wrong by itself: null where the type is non-null, not a list where it
has a list, or not of its kind.
-/

namespace GraphPipeline

/-! ### Declared shapes -/

namespace TypeKind

/-- Whether the values of the kind have no fields of their own. -/
def isLeaf : TypeKind → Bool
  | .scalar _ => true
  | .enumeration => true
  | _ => false

/-- The values of a kind of leaves.  A custom scalar can be anything. -/
inductive Contains : TypeKind → Json → Prop where
  | string (text : String) : Contains (.scalar .string) (.string text)
  | enumeration (name : String) : Contains .enumeration (.string name)
  | idText (text : String) : Contains (.scalar .id) (.string text)
  | idNumber (value : Int) : Contains (.scalar .id) (.number (.integer value))
  | int (value : Int) : Contains (.scalar .int) (.number (.integer value))
  | float (value : Json.Number) : Contains (.scalar .float) (.number value)
  | boolean (value : Bool) : Contains (.scalar .boolean) (.bool value)
  | custom (name : String) (value : Json) :
      Contains (.scalar (.custom name)) value

theorem accepts_eq_true {kind : TypeKind} (leaf : kind.isLeaf = true)
    {value : Json} :
    kind.accepts value = true ↔ kind.Contains value := by
  constructor
  · intro accepted
    cases kind with
    | scalar scalar =>
        cases scalar with
        | string => cases value <;> first | exact .string _ | cases accepted
        | boolean => cases value <;> first | exact .boolean _ | cases accepted
        | float => cases value <;> first | exact .float _ | cases accepted
        | custom name => exact .custom name value
        | int =>
            cases value with
            | number number =>
              cases number <;> first | exact .int _ | cases accepted
            | _ => cases accepted
        | id =>
            cases value with
            | string text => exact .idText text
            | number number =>
              cases number <;> first | exact .idNumber _ | cases accepted
            | _ => cases accepted
    | enumeration =>
      cases value <;> first | exact .enumeration _ | cases accepted
    | _ => cases leaf
  · intro contained
    cases contained <;> rfl

end TypeKind

namespace TypeTree

/-- The value is null only where the type admits it, is a list of elements where
the type is a list, and is of the kind inside of the lists. -/
inductive HasShape (kind : TypeKind) : TypeTree → Json → Prop where
  | null {tree : TypeTree} : tree.isRequired = false → HasShape kind tree .null
  | leaf {isRequired : Bool} {value : Json} :
      value ≠ .null → kind.Contains value →
        HasShape kind (.named isRequired) value
  | list {isRequired : Bool} {element : TypeTree} {items : List Json} :
      (∀ item ∈ items, HasShape kind element item) →
        HasShape kind (.list isRequired element) (.array items)

/-- At some indices inside of a value, another one is wrong by itself.  The
indices lead to the part of the type it is measured against. -/
inductive Offends (kind : TypeKind) :
    TypeTree → Json → List Nat → TypeTree → Json → Prop where
  | null {tree : TypeTree} :
      tree.isRequired = true → Offends kind tree .null [] tree .null
  | notList {isRequired : Bool} {element : TypeTree} {value : Json} :
      value ≠ .null → (∀ items, value ≠ .array items) →
        Offends kind (.list isRequired element) value []
          (.list isRequired element) value
  | notOfKind {isRequired : Bool} {value : Json} :
      value ≠ .null → ¬ kind.Contains value →
        Offends kind (.named isRequired) value [] (.named isRequired) value
  | item {isRequired : Bool} {element part : TypeTree} {items : List Json}
      {item found : Json} {index : Nat} {place : List Nat} :
      items[index]? = some item → Offends kind element item place part found →
        Offends kind (.list isRequired element) (.array items) (index :: place)
          part found

/-- The first value in document order that is wrong by itself. -/
structure FirstOffence (kind : TypeKind) (tree : TypeTree) (value : Json)
    (place : List Nat) (part : TypeTree) (found : Json) : Prop where
  offends : Offends kind tree value place part found
  first : ∀ {other : List Nat} {otherPart : TypeTree} {another : Json},
    Offends kind tree value other otherPart another →
      place = other ∨ List.Lex (· < ·) place other

/-- What a value is expected to be.  A list is described with what is inside of
it. -/
def expectation (name : String) : TypeTree → String
  | .named _ => name
  | .list isRequired element => (TypeTree.list isRequired element).render name

/-- The error about a value that is wrong by itself. -/
def complaint (name : String) (part : TypeTree) (path : ResponsePath)
    (found : Json) :
    ExtractionError :=
  if found.isNull then .unexpectedNull path
  else .invalidValue path (part.expectation name) found.kind

theorem path_complaint (name : String) (part : TypeTree) (path : ResponsePath)
    (found : Json) : (part.complaint name path found).path = path := by
  unfold complaint
  split <;> rfl

theorem complaint_eq_unexpectedNull {name : String} {part : TypeTree}
    {path : ResponsePath} {found : Json} :
    (∃ other, part.complaint name path found = .unexpectedNull other) ↔
      found = .null := by
  cases found <;> simp [complaint, Json.isNull]

/-- Nothing is wrong in a value of the declared shape. -/
theorem HasShape.not_offends {kind : TypeKind} {tree part : TypeTree}
    {value found : Json} {place : List Nat}
    (shaped : HasShape kind tree value) :
    ¬ Offends kind tree value place part found := by
  intro offends
  induction offends with
  | null required =>
      cases shaped with
      | null optional => rw [required] at optional; cases optional
      | leaf present _ => exact present rfl
  | notList present unlisted =>
      cases shaped with
      | null _ => exact present rfl
      | list _ => exact unlisted _ rfl
  | notOfKind present foreign =>
      cases shaped with
      | null _ => exact present rfl
      | leaf _ contained => exact foreign contained
  | item found _ induction =>
      cases shaped with
      | list each => exact induction (each _ (List.mem_of_getElem? found))

/-- A value that is wrong by itself has nothing inside of it. -/
theorem Offends.firstOffence {kind : TypeKind} {tree part : TypeTree}
    {value found : Json}
    (offends : Offends kind tree value [] part found) :
    FirstOffence kind tree value [] part found := by
  refine ⟨offends, fun {other} _ _ _ => ?_⟩
  cases other with
  | nil => exact Or.inl rfl
  | cons index place => exact Or.inr .nil

/-- The first item in which something is wrong has the first value that is
wrong. -/
theorem FirstOffence.item {kind : TypeKind} {element part : TypeTree}
    {items : List Json} {item found : Json} {index : Nat} {place : List Nat}
    (isRequired : Bool)
    (offence : FirstOffence kind element item place part found)
    (at_ : items[index]? = some item)
    (before : ∀ earlier < index, ∀ other, items[earlier]? = some other →
      HasShape kind element other) :
    FirstOffence kind (.list isRequired element) (.array items) (index :: place)
      part found := by
  refine ⟨.item at_ offence.offends, fun others => ?_⟩
  cases others with
  | notList _ unlisted => exact (unlisted items rfl).elim
  | @item _ _ _ _ other _ otherIndex otherPlace found offends =>
      rcases Nat.lt_trichotomy index otherIndex with less | same | greater
      · exact Or.inr (.rel less)
      · subst same
        rw [at_] at found
        cases found
        rcases offence.first offends with rfl | later
        · exact Or.inl rfl
        · exact Or.inr (.cons later)
      · exact ((before otherIndex greater other found).not_offends offends).elim

end TypeTree

/-! ### Checks -/

namespace Evaluate

open TypeTree

variable {kind : TypeKind} {state : EvaluationState}

/-- The check of a value succeeds if nothing is wrong in it, and else reports
what is wrong first.  It leaves the state alone. -/
def Checks (name : String) (kind : TypeKind) (tree : TypeTree) (value : Json)
    (action : Evaluate Unit) : Prop :=
  ∀ state : EvaluationState,
    (HasShape kind tree value ∧ action.result state = (.ok ⟨⟩, state)) ∨
      ∃ place part found, FirstOffence kind tree value place part found ∧
        action.result state =
          (.error (part.complaint name (state.path ++ place.map .index) found),
           state)

theorem checkKind_checks (name : String) (leaf : kind.isLeaf = true)
    (isRequired : Bool)
    {value : Json} (present : value ≠ .null) :
    Checks name kind (.named isRequired) value (checkKind name kind value) := by
  intro state
  unfold checkKind
  by_cases contained : kind.Contains value
  · rw [if_pos ((TypeKind.accepts_eq_true leaf).mpr contained)]
    exact Or.inl ⟨.leaf present contained, rfl⟩
  · rw [if_neg
        fun accepted => contained ((TypeKind.accepts_eq_true leaf).mp accepted)]
    refine Or.inr ⟨[], .named isRequired, value,
      (Offends.notOfKind present contained).firstOffence, ?_⟩
    have nonNull : value.isNull = false := by
      cases value <;> first | rfl | exact (present rfl).elim
    rw [result_failAt, complaint, nonNull, List.map_nil, List.append_nil]
    rfl

theorem checkSingle_checks (name : String) (leaf : kind.isLeaf = true)
    {tree : TypeTree} {wrapping : Wrapping} (packs : wrapping.Packs tree)
    {value : Json}
    (present : value ≠ .null) (unlisted : ∀ items, value ≠ .array items) :
    Checks name kind tree value (checkSingle name kind value wrapping) := by
  unfold checkSingle
  cases tree with
  | named isRequired =>
      rw [packs.isList_named, if_neg Bool.false_ne_true]
      exact checkKind_checks name leaf isRequired present
  | list isRequired element =>
      intro state
      rw [packs.isList_list, if_pos rfl]
      refine Or.inr ⟨[], .list isRequired element, value,
        (Offends.notList present unlisted).firstOffence, ?_⟩
      have nonNull : value.isNull = false := by
        cases value <;> first | rfl | exact (present rfl).elim
      rw [result_failAt, complaint, nonNull, List.map_nil, List.append_nil,
        packs.render_eq]
      rfl

mutual

theorem checkLeaf_checks (name : String) (leaf : kind.isLeaf = true)
    {tree : TypeTree} {wrapping : Wrapping} (packs : wrapping.Packs tree)
    (value : Json) :
    Checks name kind tree value (checkLeaf name kind value wrapping) := by
  cases value with
  | null =>
      intro state
      unfold checkLeaf
      rw [packs.isRequired_eq]
      cases required : tree.isRequired with
      | true =>
          refine Or.inr ⟨[], tree, .null, (Offends.null required).firstOffence,
            ?_⟩
          rw [List.map_nil, List.append_nil]
          rfl
      | false => exact Or.inl ⟨.null required, rfl⟩
  | array items =>
      unfold checkLeaf
      cases tree with
      | named isRequired =>
          rw [Wrapping.element?_eq_none.mpr packs.isList_named]
          exact checkKind_checks name leaf isRequired
            (by intro same; cases same)
      | list isRequired element =>
          obtain ⟨inside, elementOf, packed⟩ := packs.element?
          rw [elementOf]
          intro state
          rcases checkItems_checks name leaf packed items 0 state with
            ⟨each, passed⟩
              | ⟨offset, item, place, part, found, at_, before, offence, failed⟩
          · exact Or.inl ⟨.list each, passed⟩
          · refine Or.inr ⟨offset :: place, part, found,
              offence.item isRequired at_ before, ?_⟩
            rw [List.map_cons]
            rw [Nat.zero_add] at failed
            exact failed
  | bool value =>
      exact checkSingle_checks name leaf packs (by simp) (by simp)
  | number value =>
      exact checkSingle_checks name leaf packs (by simp) (by simp)
  | string value =>
      exact checkSingle_checks name leaf packs (by simp) (by simp)
  | object members =>
      exact checkSingle_checks name leaf packs (by simp) (by simp)
termination_by structural value

/-- Items are checked in order until something is wrong in one of them. -/
theorem checkItems_checks (name : String) (leaf : kind.isLeaf = true)
    {element : TypeTree} {wrapping : Wrapping} (packs : wrapping.Packs element)
    (items : List Json) (start : Nat) (state : EvaluationState) :
    ((∀ item ∈ items, HasShape kind element item) ∧
        (checkItems name kind items wrapping start).result state =
          (.ok ⟨⟩, state)) ∨
      ∃ offset item place part found, items[offset]? = some item ∧
        (∀ earlier < offset, ∀ other, items[earlier]? = some other →
          HasShape kind element other) ∧
        FirstOffence kind element item place part found ∧
        (checkItems name kind items wrapping start).result state =
          (.error (part.complaint name
            (state.path ++ .index (start + offset) :: place.map .index) found),
            state) := by
  cases items with
  | nil => exact Or.inl ⟨by simp, rfl⟩
  | cons item items =>
      have inside := checkLeaf_checks name leaf packs item
        { state with trail := .index start :: state.trail }
      simp only [checkItems, result_bind, result_within]
      rcases inside with
        ⟨shaped, passed⟩ | ⟨place, part, found, offence, failed⟩
      · rw [passed]
        rcases checkItems_checks name leaf packs items (start + 1) state with
          ⟨each, passed⟩
            | ⟨offset, other, place, part, found, at_, before, offence, failed⟩
        · exact Or.inl ⟨List.forall_mem_cons.mpr ⟨shaped, each⟩, passed⟩
        · refine Or.inr ⟨offset + 1, other, place, part, found, at_, ?_,
            offence, ?_⟩
          · intro earlier less another atEarlier
            cases earlier with
            | zero =>
                cases atEarlier
                exact shaped
            | succ earlier => exact before earlier (by omega) another atEarlier
          · rw [show start + (offset + 1) = start + 1 + offset by omega]
            exact failed
      · rw [failed]
        refine Or.inr ⟨0, item, place, part, found, rfl, by simp, offence, ?_⟩
        simp only [EvaluationState.path, List.reverse_cons, List.append_assoc,
          List.singleton_append, List.tail_cons, Nat.add_zero]
termination_by structural items

end

/-- The value of a leaf is checked at its own place. -/
theorem result_readLeaf (key : String) (type : TypeRef) {value held : Json}
    (holds : value.member? key = some held) (state : EvaluationState) :
    ∃ inside : EvaluationState, inside.path = state.path ++ [.key key] ∧
      ((readLeaf key type value).result state).1 =
        ((checkLeaf type.name type.kind held type.wrapping).result inside).1.map
          fun _ => held := by
  have found : (memberOf value key).result state = (.ok held, state) :=
    runs_memberOf.mpr ⟨holds, rfl⟩
  refine ⟨{ state with
    trail := .key key :: state.trail
    absentAt :=
      if held.isNull then some (.key key :: state.trail) else state.absentAt },
    List.reverse_cons, ?_⟩
  simp only [readLeaf, result_bind, found, result_within]
  cases held.isNull with
  | true =>
      simp only [if_true, result_bind, result_modify]
      cases (checkLeaf type.name type.kind held type.wrapping).result _ with
      | mk outcome last => cases outcome <;> rfl
  | false =>
      simp only [Bool.false_eq_true, if_false, result_bind, result_pure]
      cases (checkLeaf type.name type.kind held type.wrapping).result _ with
      | mk outcome last => cases outcome <;> rfl

/-- A leaf is read exactly if the value under its key has the declared shape,
and then it is that value.  Otherwise the error is about the first value that is
wrong, at its indices inside of the field, and it says that a value is missing
exactly if that value is null. -/
theorem readScalar_exact {type : TypeRef} {tree : TypeTree}
    (built : Wrapping.Builds tree type.wrapping)
    (leaf : type.kind.isLeaf = true) (given : Option AllNodes) {key : String}
    {value held : Json}
    (holds : value.member? key = some held) (state : EvaluationState) :
    (∀ output, ((program given (.readScalar key type) value).result state).1 =
      .ok output ↔
      HasShape type.kind tree held ∧ output = held) ∧
    (¬ HasShape type.kind tree held →
      ∃ place part found error,
        FirstOffence type.kind tree held place part found ∧
        ((program given (.readScalar key type) value).result state).1 =
          .error error ∧
        error = part.complaint type.name
          (state.path ++ .key key :: place.map .index) found ∧
        error.path = state.path ++ .key key :: place.map .index ∧
        ((∃ path, error = .unexpectedNull path) ↔ found = .null)) := by
  obtain ⟨inside, place, outcome⟩ := result_readLeaf key type holds state
  rw [program, outcome]
  rcases checkLeaf_checks type.name leaf built.packs held inside with
    ⟨shaped, passed⟩ | ⟨indices, part, found, offence, failed⟩
  · rw [passed]
    refine ⟨fun output => ⟨fun same => ?_, fun same => ?_⟩, fun misshapen => ?_⟩
    · cases same
      exact ⟨shaped, rfl⟩
    · rw [same.2]
      rfl
    · exact (misshapen shaped).elim
  · rw [failed, place, List.append_assoc, List.singleton_append]
    refine ⟨fun output => ⟨fun same => ?_, fun same => ?_⟩, fun _ => ?_⟩
    · cases same
    · exact (same.1.not_offends offence.offends).elim
    · exact ⟨indices, part, found, _, offence, rfl, rfl, path_complaint _ _ _ _,
        complaint_eq_unexpectedNull⟩

end Evaluate

namespace Sample

/-- Lists of counts, in which a count may not be missing. -/
def countsType : TypeRef :=
  (TypeRef.scalar .int).nonNull.listOf.listOf.nonNull

theorem countsType_builds :
    Wrapping.Builds (.list true (.list false (.named true)))
      countsType.wrapping := by
  have inner :
      Wrapping.Builds (.named true) (TypeRef.scalar .int).nonNull.wrapping :=
    .nonNull (.named false)
  have lists : Wrapping.Builds (.list false (.list false (.named true)))
      (TypeRef.scalar .int).nonNull.listOf.listOf.wrapping :=
    .inList (.inList inner rfl) rfl
  exact lists.nonNull

def counts (last : Json) : Json :=
  .array [.array [.number (.integer 1)], .null,
    .array [.number (.integer 2), last, .null]]

end Sample

/-- A text among counts is the first offence, before the null after it. -/
theorem readScalar_counts :
    ((Evaluate.program none (.readScalar "counts" Sample.countsType)
        (.object [("counts", Sample.counts (.string "3"))])).result
          (.initial .null)).1 =
      .error (.invalidValue [.key "counts", .index 2, .index 1] "Int"
        "a string") ∧
    ∃ place part found, TypeTree.FirstOffence (.scalar .int)
        (.list true (.list false (.named true))) (Sample.counts (.string "3"))
          place part found ∧
      place.map PathSegment.index = [.index 2, .index 1] ∧ found ≠ .null := by
  have holds :
      (Json.object [("counts", Sample.counts (.string "3"))]).member? "counts" =
        some (Sample.counts (.string "3")) := rfl
  have failed : ((Evaluate.program none (.readScalar "counts" Sample.countsType)
        (.object [("counts", Sample.counts (.string "3"))])).result
          (.initial .null)).1 =
      .error (.invalidValue [.key "counts", .index 2, .index 1] "Int"
        "a string") := by
    cbv
  obtain ⟨accepts, rejects⟩ :=
    Evaluate.readScalar_exact Sample.countsType_builds rfl none holds
      (.initial .null)
  have misshapen :
      ¬ TypeTree.HasShape (.scalar .int)
        (.list true (.list false (.named true)))
        (Sample.counts (.string "3")) := by
    intro shaped
    have read := (accepts _).mpr ⟨shaped, rfl⟩
    rw [failed] at read
    cases read
  obtain ⟨place, part, found, error, offence, outcome, -, path, missing⟩ :=
    rejects misshapen
  rw [failed] at outcome
  cases outcome
  refine ⟨failed, place, part, found, offence, (List.cons.inj path).2.symm,
    fun isNull => ?_⟩
  obtain ⟨_, same⟩ := missing.mpr isNull
  cases same

end GraphPipeline
