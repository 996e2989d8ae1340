import GraphPipeline.Proofs.Evaluation.Triples
import GraphPipeline.Proofs.Evaluation.LockstepParts

/-!
# Places in the data

An evaluation records the way to its current value.  A jump to an element that
was passed on the way takes the value along but keeps the record, so the place
of the value is the recorded path with segments left out.  `IsAbout` says at
which place the value is that an error is about.
-/

namespace GraphPipeline

namespace Json

/-- What stands in a value under a key or at an index. -/
def step? (value : Json) : PathSegment → Option Json
  | .key name => value.member? name
  | .index position =>
      match value with
      | .array items => items[position]?
      | _ => none

/-- What a path leads to. -/
def follow? (value : Json) : ResponsePath → Option Json
  | [] => some value
  | segment :: rest => (value.step? segment).bind (·.follow? rest)

theorem follow?_append (value : Json) (path more : ResponsePath) :
    value.follow? (path ++ more) =
      (value.follow? path).bind (·.follow? more) := by
  induction path generalizing value with
  | nil => rfl
  | cons segment path induction =>
      simp only [List.cons_append, follow?]
      cases value.step? segment with
      | none => rfl
      | some inner => exact induction inner

/-- The value a step further. -/
theorem follow?_concat {value inner next : Json} {path : ResponsePath}
    {segment : PathSegment} (found : value.follow? path = some inner)
    (step : inner.step? segment = some next) :
    value.follow? (path ++ [segment]) = some next := by
  simp [follow?_append, found, follow?, step]

end Json

/-- A path records the way to a place: jumps add segments, unless they
stay in place. -/
structure Names (inPlace : Prop) (recorded place : ResponsePath) : Prop where
  sublist : List.Sublist place recorded
  same : inPlace → place = recorded

theorem Names.child {inPlace : Prop} {recorded place : ResponsePath}
    (names : Names inPlace recorded place) (segment : PathSegment) :
    Names inPlace (recorded ++ [segment]) (place ++ [segment]) where
  sublist := names.sublist.append (List.Sublist.refl [segment])
  same := fun holds => by rw [names.same holds]

/-- A value of the data that stands at a place. -/
structure Standing (inPlace : Prop) (data : Json)
    (recorded place : ResponsePath) (value : Json) :
    Prop extends Names inPlace recorded place where
  found : data.follow? place = some value

theorem Standing.child {inPlace : Prop} {data value next : Json}
    {recorded place : ResponsePath} {segment : PathSegment}
    (standing : Standing inPlace data recorded place value)
    (step : value.step? segment = some next) :
    Standing inPlace data (recorded ++ [segment]) (place ++ [segment])
      next where
  toNames := standing.toNames.child segment
  found := Json.follow?_concat standing.found step

/-- The items of a list from an index on stand below the list. -/
def ItemsStand (inPlace : Prop) (data : Json) (recorded place : ResponsePath)
    (items : List Json) (start : Nat) : Prop :=
  ∀ index item, items[index]? = some item →
    Standing inPlace data (recorded ++ [.index (start + index)])
      (place ++ [.index (start + index)]) item

section lists

variable {inPlace : Prop} {data item : Json} {items : List Json}
  {recorded place : ResponsePath} {start : Nat}

theorem Standing.itemsStand
    (standing : Standing inPlace data recorded place (.array items)) :
    ItemsStand inPlace data recorded place items 0 := by
  intro index item found
  rw [Nat.zero_add]
  exact standing.child found

theorem ItemsStand.head
    (stand : ItemsStand inPlace data recorded place (item :: items) start) :
    Standing inPlace data (recorded ++ [.index start]) (place ++ [.index start])
      item :=
  stand 0 item rfl

theorem ItemsStand.tail
    (stand : ItemsStand inPlace data recorded place (item :: items) start) :
    ItemsStand inPlace data recorded place items (start + 1) := by
  intro index other found
  rw [Nat.add_assoc, Nat.add_comm 1]
  exact stand (index + 1) other found

end lists

/-- The elements that are bound have been passed on the way. -/
def Passed (data : Json) (recorded : ResponsePath)
    (bindings : Nat → Option Json) : Prop :=
  ∀ depth value, bindings depth = some value →
    ∃ place, List.Sublist place recorded ∧ data.follow? place = some value

theorem Passed.mono {data : Json} {recorded longer : ResponsePath}
    {bindings : Nat → Option Json} (passed : Passed data recorded bindings)
    (further : List.Sublist recorded longer) : Passed data longer bindings := by
  intro depth value bound
  obtain ⟨place, sublist, found⟩ := passed depth value bound
  exact ⟨place, sublist.trans further, found⟩

theorem Passed.update {inPlace : Prop} {data value : Json}
    {recorded place : ResponsePath} {bindings : Nat → Option Json}
    (passed : Passed data recorded bindings)
    (standing : Standing inPlace data recorded place value) (depth : Nat) :
    Passed data recorded (Function.update bindings depth (some value)) := by
  intro other bound same
  by_cases atDepth : other = depth
  · subst other
    rw [Function.update_self] at same
    cases same
    exact ⟨place, standing.sublist, standing.found⟩
  · rw [Function.update_of_ne atDepth] at same
    exact passed other bound same

/-- The wrappings of the elements, and of their elements, of a wrapped type. -/
inductive Wrapping.Inside (outer : Wrapping) : Wrapping → Prop where
  | here : Inside outer outer
  | element {wrapping element : Wrapping} :
      Inside outer wrapping → wrapping.element? = some element →
        Inside outer element

/-- The programs a program is made of. -/
inductive Program.PartOf (whole : Program) : Program → Prop where
  | self : PartOf whole whole
  | field {key : String} {inner : Program} :
      PartOf whole (.field key inner) → PartOf whole inner
  | optional {inner : Program} :
      PartOf whole (.optional inner) → PartOf whole inner
  | mapList {filters : Nat} {inner : Program} :
      PartOf whole (.mapList filters inner) → PartOf whole inner
  | narrow {typeName : String} {mode : NarrowingMode} {inner : Program} :
      PartOf whole (.narrow typeName mode inner) → PartOf whole inner
  | buildRecord {fields : List (String × Program)} {field : String × Program} :
      PartOf whole (.buildRecord fields) → field ∈ fields → PartOf whole field.2
  | enforceSingle {inner : Program} :
      PartOf whole (.enforceSingle inner) → PartOf whole inner
  | toDictionary {entry : Program} :
      PartOf whole (.toDictionary entry) → PartOf whole entry
  | key {key value : Program} :
      PartOf whole (.keyValue key value) → PartOf whole key
  | value {key value : Program} :
      PartOf whole (.keyValue key value) → PartOf whole value
  | subquerySink {id : SubqueryId} {keys : PageKeys} {inner : Program} :
      PartOf whole (.subquerySink id keys inner) → PartOf whole inner
  | bind {depth : Nat} {inner : Program} :
      PartOf whole (.bind depth inner) → PartOf whole inner
  | parameter {depth : Nat} {inner : Program} :
      PartOf whole (.parameter depth inner) → PartOf whole inner

section places

variable (program : Program) (data : Json)

/-- A value other than the one a program expects. -/
inductive Json.Unsuitable (value : Json) : String → Prop where
  | object : (∀ members, value ≠ .object members) → Unsuitable value "an object"
  | list : (∀ items, value ≠ .array items) → Unsuitable value "a list"
  | leafList {key : String} {type : TypeRef} {wrapping : Wrapping} :
      program.PartOf (.readScalar key type) → type.wrapping.Inside wrapping →
        wrapping.isList = true → (∀ items, value ≠ .array items) →
          Unsuitable value (wrapping.render type.name)
  | leaf {key : String} {type : TypeRef} :
      program.PartOf (.readScalar key type) → type.kind.accepts value = false →
        Unsuitable value type.name

/-- A null, or an object that a filter of the program rejects, stands at a
place. -/
def IsAbsent (place : ResponsePath) : Prop :=
  data.follow? place = some .null ∨
    ∃ value typeName inner received, data.follow? place = some value ∧
      program.PartOf (.narrow typeName .filter inner) ∧
        value.typename? = some received ∧ received ≠ typeName

/-- An element stands at a place, and a program makes an entry of a dictionary
of it, started where elements on the way are bound. -/
def YieldsEntry (place : ResponsePath) (entry : Program) (key : Json) : Prop :=
  ∃ item value state, data.follow? place = some item ∧
    List.Sublist place state.path ∧ Passed data state.path state.binding? ∧
      ((Evaluate.program none entry item).result state).1 =
        .ok (.array [key, value])

/-- The value an error is about stands at a place.  A missing field has none,
but all that comes before it leads somewhere. -/
def ExtractionError.IsAbout (place : ResponsePath) : ExtractionError → Prop
  | .unexpectedNull _ => data.follow? place = some .null
  | .missingField _ =>
      place ≠ [] ∧ ∀ shorter, shorter <+: place → shorter ≠ place →
        (data.follow? shorter).isSome = true
  | .invalidValue _ expected found =>
      ∃ value, data.follow? place = some value ∧ value.isNull = false ∧
        value.kind = found ∧ value.Unsuitable program expected
  | .missingTypename _ =>
      ∃ value, data.follow? place = some value ∧ value.isNull = false ∧
        value.typename? = none
  | .typeMismatch _ expected received =>
      ∃ value inner, data.follow? place = some value ∧
        program.PartOf (.narrow expected .cast inner) ∧
          value.typename? = some received ∧ received ≠ expected
  | .absent _ => IsAbsent program data place
  | .duplicateKey _ key =>
      ∃ list index earlier entry first second, place = list ++ [.index index] ∧
        earlier < index ∧ program.PartOf (.toDictionary entry) ∧
          YieldsEntry data place entry first ∧ first.keyText? = some key ∧
            YieldsEntry data (list ++ [.index earlier]) entry second ∧
              second.keyText? = some key
  | .invalidKey _ found =>
      ∃ list index entry key, place = list ++ [.index index] ∧
        program.PartOf (.toDictionary entry) ∧
          YieldsEntry data place entry key ∧
          key.keyText? = none ∧ key.kind = found
  | .unboundParameter _ _ => False

/-- The path of an error names the place of the value it is about. -/
def ExtractionError.IsPlaced (inPlace : Prop) (error : ExtractionError) :
    Prop :=
  ∃ place, Names inPlace error.path place ∧ error.IsAbout program data place

end places

namespace Evaluate

/-- The evaluation is at a trail, with some bindings. -/
def AtTrail (trail : List PathSegment) (bindings : Nat → Option Json)
    (state : EvaluationState) : Prop :=
  state.trail = trail ∧ state.binding? = bindings

/-- The place of the last absent value is marked. -/
def Marked (inPlace : Prop) (program : Program) (data : Json)
    (state : EvaluationState) :
    Prop :=
  ∃ trail place,
    state.absentAt = some trail ∧ Names inPlace trail.reverse place ∧
    IsAbsent program data place

/-- An action that comes back to where it started, and whose errors are
placed. -/
def Stays {α : Type} (inPlace : Prop) (program : Program) (data : Json)
    (trail : List PathSegment) (bindings : Nat → Option Json) (post : α → Prop)
    (action : Evaluate α) : Prop :=
  Triple (AtTrail trail bindings)
    (fun value state => AtTrail trail bindings state ∧ post value)
    (ExtractionError.IsPlaced program data inPlace) action

/-- Besides, a null it results in is marked. -/
def Locates (inPlace : Prop) (program : Program) (data : Json)
    (trail : List PathSegment) (bindings : Nat → Option Json)
    (post : Json → Prop) (action : Evaluate Json) : Prop :=
  Triple (AtTrail trail bindings)
    (fun value state => AtTrail trail bindings state ∧ post value ∧
      (value.isNull = true → Marked inPlace program data state))
    (ExtractionError.IsPlaced program data inPlace) action

section rules

variable {α β : Type} {inPlace : Prop} {whole : Program} {data value : Json}
  {trail : List PathSegment} {place : ResponsePath}
  {bindings : Nat → Option Json}

theorem Stays.bind {post : α → Prop} {after : β → EvaluationState → Prop}
    {action : Evaluate α} {next : α → Evaluate β}
    (first : Stays inPlace whole data trail bindings post action)
    (second : ∀ value, post value → Triple (AtTrail trail bindings) after
      (ExtractionError.IsPlaced whole data inPlace) (next value)) :
    Triple (AtTrail trail bindings) after
      (ExtractionError.IsPlaced whole data inPlace)
      (action >>= next) := by
  apply Triple.bind first
  intro value
  exact Triple.assuming (second value)

theorem stays_pure {post : α → Prop} {value : α} (holds : post value) :
    Stays inPlace whole data trail bindings post (pure value) :=
  triple_pure fun _ start => ⟨start, holds⟩

/-- A failure about the current value. -/
theorem failAt_placed {post : α → EvaluationState → Prop}
    {error : ResponsePath → ExtractionError}
    (names : Names inPlace trail.reverse place)
    (carries : (error trail.reverse).path = trail.reverse)
    (about : (error trail.reverse).IsAbout whole data place) :
    Triple (AtTrail trail bindings) post
      (ExtractionError.IsPlaced whole data inPlace)
      (failAt error) := by
  apply triple_failAt
  intro state start
  simp only [EvaluationState.path, start.1]
  refine ⟨place, ?_, about⟩
  rw [carries]
  exact names

theorem atPath_stays {post : α → Prop}
    {compute : ResponsePath → Except ExtractionError α}
    (value : ∀ value, compute trail.reverse = .ok value → post value)
    (error : ∀ error, compute trail.reverse = .error error →
      error.IsPlaced whole data inPlace) :
    Stays inPlace whole data trail bindings post (atPath compute) := by
  apply triple_atPath
  · intro state found start computed
    simp only [EvaluationState.path, start.1] at computed
    exact ⟨start, value found computed⟩
  · intro state failure start computed
    simp only [EvaluationState.path, start.1] at computed
    exact error failure computed

/-- A change that leaves the trail and the bindings alone. -/
theorem modify_stays {change : EvaluationState → EvaluationState}
    (sameTrail : ∀ state, (change state).trail = state.trail)
    (sameBindings : ∀ state, (change state).bindings = state.bindings) :
    Stays inPlace whole data trail bindings (fun _ => True)
      (modify change) := by
  apply triple_modify
  rintro state ⟨rfl, rfl⟩
  refine ⟨⟨sameTrail state, ?_⟩, trivial⟩
  funext depth
  simp only [EvaluationState.binding?, sameBindings]

theorem within_stays {segment : PathSegment} {post : α → Prop}
    {action : Evaluate α}
    (inside :
      Stays inPlace whole data (segment :: trail) bindings post action) :
    Stays inPlace whole data trail bindings post (within segment action) := by
  apply triple_between inside
  · rintro state ⟨rfl, rfl⟩
    exact ⟨rfl, rfl⟩
  · rintro value state ⟨⟨sameTrail, rfl⟩, holds⟩
    refine ⟨⟨?_, rfl⟩, holds⟩
    simp only [sameTrail, List.tail_cons]

theorem within_locates {segment : PathSegment} {post : Json → Prop}
    {action : Evaluate Json}
    (inside :
      Locates inPlace whole data (segment :: trail) bindings post action) :
    Locates inPlace whole data trail bindings post (within segment action) := by
  apply triple_between inside
  · rintro state ⟨rfl, rfl⟩
    exact ⟨rfl, rfl⟩
  · rintro value state ⟨⟨sameTrail, rfl⟩, holds, marked⟩
    refine ⟨⟨?_, rfl⟩, holds, marked⟩
    simp only [sameTrail, List.tail_cons]

theorem isolated_stays {post : α → Prop} {action : Evaluate α}
    (inside : Stays inPlace whole data trail bindings post action) :
    Stays inPlace whole data trail bindings post (isolated action) := by
  apply Triple.of_each
  intro state start
  apply triple_isolated
    (inside.imp (fun other same => same ▸ start) fun _ _ held => held)
  intro value last held
  exact held

theorem binding_locates {depth : Nat} {post : Json → Prop}
    {action : Evaluate Json}
    (inside :
      Locates inPlace whole data trail
        (Function.update bindings depth (some value)) post action) :
    Locates inPlace whole data trail bindings post
      (binding depth value action) := by
  apply Triple.of_each
  rintro state ⟨rfl, rfl⟩
  apply triple_binding (inside.imp _ fun _ _ held => held)
  · rintro result last ⟨⟨sameTrail, sameBindings⟩, holds, marked⟩
    refine ⟨⟨sameTrail, ?_⟩, holds, marked⟩
    rw [EvaluationState.binding?_rebind, sameBindings, Function.update_idem,
      Function.update_eq_self]
  · rintro _ rfl
    exact ⟨rfl, EvaluationState.binding?_rebind _ _ _⟩

theorem Locates.stays {post : Json → Prop} {action : Evaluate Json}
    (locates : Locates inPlace whole data trail bindings post action) :
    Stays inPlace whole data trail bindings post action :=
  locates.imp (fun _ start => start) fun _ _ ending => ⟨ending.1, ending.2.1⟩

theorem pure_locates {post : Json → Prop} (holds : post value)
    (present : value.isNull = false) :
    Locates inPlace whole data trail bindings post (pure value) :=
  triple_pure fun _ start => ⟨start, holds, fun null => by
    rw [present] at null
    cases null⟩

theorem absent_locates {post : Json → Prop} (null : post .null)
    (names : Names inPlace trail.reverse place)
    (missing : IsAbsent whole data place) :
    Locates inPlace whole data trail bindings post absent := by
  constructor
  · intro state later result start run
    cases run
    refine ⟨start, null, fun _ => ⟨state.trail, place, rfl, ?_, missing⟩⟩
    rw [start.1]
    exact names
  · intro state later error start run
    cases run

end rules

end Evaluate

end GraphPipeline
