import Mathlib.Data.List.Forall2
import GraphPipeline.Response.Error

/-!
# Reported errors are read back

Writing an error leaves out what is empty, and reading one fills in what is not
given and also takes the array of the fields.  So more values are read than are
written, but each of them stands for an error whose own value is read as that
error again.  The segments of a path are not tagged: a string is a key and a
number is an index, whatever the string consists of.
-/

namespace GraphPipeline

namespace Json

section Lists

theorem mapM_eq_some_iff_forall₂ {α β : Type} {read? : β → Option α}
    {values : List β} {items : List α} :
    values.mapM read? = some items ↔
      List.Forall₂ (fun value item => read? value = some item) values
        items := by
  induction values generalizing items with
  | nil => cases items <;> simp
  | cons value values induction =>
      cases items <;> simp [List.mapM_cons, Option.bind_eq_some_iff, induction]

variable {α : Type} {read? : Json → Option α} {write : α → Json}
  {items : List α}

theorem listOf?_eq_some {value : Json} :
    value.listOf? read? = some items ↔
      ∃ values, value = .array values ∧
        List.Forall₂ (fun value item => read? value = some item) values
          items := by
  cases value <;> simp [listOf?, mapM_eq_some_iff_forall₂]

/-- A list is read back if its items are. -/
theorem listOf?_map (round : ∀ item ∈ items, read? (write item) = some item) :
    (Json.array (items.map write)).listOf? read? = some items := by
  refine listOf?_eq_some.mpr ⟨_, rfl, ?_⟩
  rw [List.forall₂_map_left_iff, List.forall₂_same]
  exact round

/-- What holds of every item that is read holds of the items of a list. -/
theorem forall_of_listOf? {Holds : α → Prop} {value : Json}
    (holds : ∀ value item, read? value = some item → Holds item)
    (read : value.listOf? read? = some items) : ∀ item ∈ items, Holds item := by
  obtain ⟨values, -, matched⟩ := listOf?_eq_some.mp read
  have all := matched.imp fun value item => holds value item
  rw [List.forall₂_iff_get] at all
  intro item member
  obtain ⟨position, within, rfl⟩ := List.getElem_of_mem member
  exact all.2 position (all.1 ▸ within) within

/-- If items are read from no other value than the one they are written as, so
are lists. -/
theorem eq_of_listOf? {value : Json}
    (written : ∀ value item, read? value = some item → value = write item)
    (read : value.listOf? read? = some items) :
    value = .array (items.map write) := by
  obtain ⟨values, rfl, matched⟩ := listOf?_eq_some.mp read
  have same := matched.imp fun value item => written value item
  rw [← List.forall₂_map_right_iff (R := (· = ·)),
    List.forall₂_eq_eq_eq] at same
  rw [same]

end Lists

/-- A natural number is read from one value alone. -/
theorem natBelow?_eq_some {limit : Nat} {value : Json} {number : Nat} :
    value.natBelow? limit = some number ↔
      value = .number (.integer number) ∧ number < limit := by
  constructor
  · intro read
    unfold natBelow? at read
    split at read
    case h_1 integer =>
      split at read
      case isTrue within =>
        cases read
        rw [Int.toNat_of_nonneg within.1]
        exact ⟨rfl, by omega⟩
      case isFalse => cases read
    case h_2 => cases read
  · rintro ⟨rfl, below⟩
    simp [natBelow?, below]

/-- The members of a record: its fields that are given. -/
def membersOf (fields : List (String × Option Json)) : List (String × Json) :=
  fields.filterMap fun field => field.2.map (field.1, ·)

theorem membersOf_cons (field : String × Option Json)
    (fields : List (String × Option Json)) :
    membersOf (field :: fields) =
      (field.2.map (field.1, ·)).toList ++ membersOf fields := by
  cases given : field.2 <;> simp [membersOf, given]

theorem filter_membersOf {fields : List (String × Option Json)}
    (distinct : (fields.map Prod.fst).Nodup) {field : String × Option Json}
    (member : field ∈ fields) :
    (membersOf fields).filter (·.1 == field.1) =
      (field.2.map (field.1, ·)).toList := by
  induction fields with
  | nil => cases member
  | cons head fields induction =>
      rw [List.map_cons, List.nodup_cons] at distinct
      rw [membersOf_cons, List.filter_append]
      cases member with
      | head =>
          have others : (membersOf fields).filter (·.1 == field.1) = [] := by
            rw [List.filter_eq_nil_iff]
            intro other given same
            obtain ⟨source, known, made⟩ := List.mem_filterMap.mp given
            obtain ⟨value, -, rfl⟩ := Option.map_eq_some_iff.mp made
            exact distinct.1 (eq_of_beq same ▸ List.mem_map_of_mem known)
          rw [others, List.append_nil]
          cases field.2 <;> simp
      | tail _ member =>
          have other : head.1 ≠ field.1 := fun same =>
            distinct.1 (same ▸ List.mem_map_of_mem member)
          rw [induction distinct.2 member]
          cases head.2 <;> simp [other]

theorem fieldOf?_membersOf {fields : List (String × Option Json)}
    (distinct : (fields.map Prod.fst).Nodup) {field : String × Option Json}
    (member : field ∈ fields) :
    fieldOf? (membersOf fields) field.1 = some field.2 := by
  unfold fieldOf?
  rw [filter_membersOf distinct member]
  cases field.2 <;> rfl

/-- A record is read back from the object of its fields. -/
theorem record?_membersOf (fields : List (String × Option Json))
    (distinct : (fields.map Prod.fst).Nodup) :
    (Json.object (membersOf fields)).record? (fields.map Prod.fst) =
      some (fields.map Prod.snd) := by
  refine mapM_eq_some_iff_forall₂.mpr ?_
  rw [List.forall₂_map_left_iff, List.forall₂_map_right_iff, List.forall₂_same]
  exact fun field member => fieldOf?_membersOf distinct member

end Json

namespace PathSegment

/-- Whether an index is one that a machine word can hold. -/
def Fits : PathSegment → Prop
  | .key _ => True
  | .index position => position < indexLimit

/-- A segment is read from the value it is written as and from no other: a
string is always a key. -/
theorem ofJson?_eq_some {value : Json} {segment : PathSegment} :
    ofJson? value = some segment ↔ value = segment.toJson ∧ segment.Fits := by
  cases segment with
  | key name =>
    cases value <;> simp [ofJson?, toJson, Fits]
  | index position =>
    cases value <;> simp [ofJson?, toJson, Fits, Json.natBelow?_eq_some]

end PathSegment

namespace Location

/-- Whether the line and the column are numbers of 32 bits. -/
def Fits (location : Location) : Prop :=
  location.line < limit ∧ location.column < limit

theorem ofJson?_toJson {location : Location} (fits : location.Fits) :
    ofJson? location.toJson = some location := by
  have fields : location.toJson.record? fieldNames =
      some [some (.number (.integer location.line)),
        some (.number (.integer location.column))] :=
    Json.record?_membersOf
      [("line", some (.number (.integer location.line))),
        ("column", some (.number (.integer location.column)))] (by simp)
  have line := Json.natBelow?_eq_some.mpr ⟨rfl, fits.1⟩
  have column := Json.natBelow?_eq_some.mpr ⟨rfl, fits.2⟩
  simp [ofJson?, fields, line, column]

theorem fits_of_ofJson? {value : Json} {location : Location}
    (read : ofJson? value = some location) : location.Fits := by
  unfold ofJson? at read
  split at read
  case h_1 line column _ =>
    simp only [Option.bind_eq_bind, Option.bind_eq_some_iff,
      Option.pure_def] at read
    obtain ⟨_, line, _, column, same⟩ := read
    cases same
    exact ⟨(Json.natBelow?_eq_some.mp line).2,
      (Json.natBelow?_eq_some.mp column).2⟩
  case h_2 => cases read

end Location

namespace GraphqlError

/-- What the types of the fields of an error hold: indices of a machine word,
lines and columns of 32 bits. -/
structure Fits (error : GraphqlError) : Prop where
  path : ∀ path, error.path = some path → ∀ segment ∈ path, segment.Fits
  locations : ∀ location ∈ error.locations, location.Fits

/-- The fields of an error, those that are not written being `none`. -/
def fields (error : GraphqlError) : List (String × Option Json) :=
  [("message", some (.string error.message)),
    ("path", error.path.map ResponsePath.toJson),
    ("locations", if error.locations.isEmpty then none
      else some (.array (error.locations.map Location.toJson))),
    ("extensions", if error.extensions.isEmpty then none
      else some (.object error.extensions))]

theorem toJson_eq (error : GraphqlError) :
    error.toJson = .object (Json.membersOf error.fields) := by
  cases path : error.path <;> cases locations : error.locations.isEmpty <;>
    cases extensions : error.extensions.isEmpty <;>
      simp [toJson, fields, memberUnless, Json.membersOf, path, locations,
        extensions]

theorem record?_toJson (error : GraphqlError) :
    error.toJson.record? fieldNames = some (error.fields.map Prod.snd) := by
  rw [toJson_eq]
  exact Json.record?_membersOf error.fields (by simp [fields])

/-- What a value that is read as an error gives for the path. -/
def pathField? (value : Json) : Option Json :=
  ((value.record? fieldNames).bind (·[1]?)).join

theorem readPath?_map {path : Option ResponsePath}
    (fits : ∀ given, path = some given → ∀ segment ∈ given, segment.Fits) :
    readPath? (path.map ResponsePath.toJson) = some path := by
  cases path with
  | none => rfl
  | some path =>
      have read : ResponsePath.ofJson? path.toJson = some path :=
        Json.listOf?_map fun segment member =>
          PathSegment.ofJson?_eq_some.mpr ⟨rfl, fits path rfl segment member⟩
      exact congrArg (Option.map some) read

theorem of_readPath? {given : Option Json} {path : ResponsePath}
    (read : readPath? given = some (some path)) :
    given = some path.toJson ∧ ∀ segment ∈ path, segment.Fits := by
  unfold readPath? at read
  split at read
  case h_1 => cases read
  case h_2 => cases read
  case h_3 value _ =>
    obtain ⟨_, read, same⟩ := Option.map_eq_some_iff.mp read
    cases same
    have written : value = path.toJson :=
      Json.eq_of_listOf?
        (fun _ _ read => (PathSegment.ofJson?_eq_some.mp read).1) read
    exact ⟨congrArg some written,
      Json.forall_of_listOf?
        (fun _ _ read => (PathSegment.ofJson?_eq_some.mp read).2) read⟩

theorem readLocations?_fields {locations : List Location}
    (fits : ∀ location ∈ locations, location.Fits) :
    readLocations? (if locations.isEmpty then none
      else some (.array (locations.map Location.toJson))) = some locations := by
  cases locations with
  | nil => rfl
  | cons location locations =>
      exact Json.listOf?_map
        fun location member => Location.ofJson?_toJson (fits location member)

theorem fits_of_readLocations? {given : Option Json} {locations : List Location}
    (read : readLocations? given = some locations) :
    ∀ location ∈ locations, location.Fits := by
  cases given with
  | none =>
      cases read
      simp
  | some value =>
    exact Json.forall_of_listOf? (fun _ _ => Location.fits_of_ofJson?) read

theorem readExtensions?_fields (extensions : Entries Json) :
    readExtensions?
      (if extensions.isEmpty then none else some (.object extensions)) =
      some extensions := by
  cases extensions <;> rfl

/-- An error is read back from the value it is written as. -/
theorem ofJson?_toJson {error : GraphqlError} (fits : error.Fits) :
    ofJson? error.toJson = some error := by
  simp only [ofJson?, record?_toJson, fields, List.map_cons, List.map_nil,
    readPath?_map fits.path, readLocations?_fields fits.locations,
    readExtensions?_fields]
  rfl

/-- What is read as an error gives the message and the value of each other
field. -/
theorem of_ofJson? {value : Json} {error : GraphqlError}
    (read : ofJson? value = some error) :
    ∃ path locations extensions,
      value.record? fieldNames =
        some [some (.string error.message), path, locations, extensions] ∧
      readPath? path = some error.path ∧
      readLocations? locations = some error.locations ∧
      readExtensions? extensions = some error.extensions := by
  unfold ofJson? at read
  split at read
  case h_1 message path locations extensions given =>
    simp only [Option.bind_eq_bind, Option.bind_eq_some_iff,
      Option.pure_def] at read
    obtain ⟨_, read_path, _, read_locations, _, read_extensions, same⟩ := read
    cases same
    exact ⟨path, locations, extensions, given, read_path, read_locations,
      read_extensions⟩
  case h_2 => cases read

theorem fits_of_ofJson? {value : Json} {error : GraphqlError}
    (read : ofJson? value = some error) : error.Fits := by
  obtain ⟨path, locations, extensions, -, read_path, read_locations, -⟩ :=
    of_ofJson? read
  refine ⟨fun given same => ?_, fits_of_readLocations? read_locations⟩
  rw [same] at read_path
  exact (of_readPath? read_path).2

/-- A path is read from the value it is written as. -/
theorem pathField?_of_ofJson? {value : Json} {error : GraphqlError}
    {path : ResponsePath}
    (read : ofJson? value = some error) (given : error.path = some path) :
    pathField? value = some path.toJson := by
  obtain ⟨written, locations, extensions, found, read_path, -⟩ :=
    of_ofJson? read
  rw [given] at read_path
  rw [pathField?, found, (of_readPath? read_path).1]
  rfl

/-- Errors survive being written and read.  An error whose indices, lines and
columns are within their types is read back from its own value.  Of every value
that is read as an error, whichever of its fields are left out, empty or null
and in whichever form it is, the error is read again from the value it is
written as in turn, and the path stands in both as the list of the same strings
and numbers, the strings being its keys and the numbers its indices. -/
theorem survives_rewriting (error : GraphqlError) (value : Json) :
    (error.Fits → ofJson? error.toJson = some error) ∧
      (ofJson? value = some error →
        error.Fits ∧ ofJson? error.toJson = some error ∧
          ∀ path, error.path = some path →
            pathField? value = some path.toJson ∧
              pathField? error.toJson = some path.toJson) := by
  refine ⟨ofJson?_toJson, fun read => ?_⟩
  have fits := fits_of_ofJson? read
  have again := ofJson?_toJson fits
  exact ⟨fits, again, fun path given =>
    ⟨pathField?_of_ofJson? read given, pathField?_of_ofJson? again given⟩⟩

namespace Sample

/-- An error at an element of a list that is a member called by a digit. -/
def misplaced : GraphqlError where
  message := "not found"
  path := some [.key "0", .index 0]
  locations := [⟨1, 5⟩]
  extensions := [("retry", .null)]

/-- A value that gives this error, with its location as an array and a member
too many. -/
def misplacedValue : Json :=
  .object
    [("extensions", .object [("retry", .null)]),
      ("path", .array [.string "0", .number (.integer 0)]),
      ("locations",
       .array [.array [.number (.integer 1), .number (.integer 5)]]),
      ("severity", .string "low"),
      ("message", .string "not found")]

end Sample

theorem misplaced_survives_rewriting :
    Sample.misplaced.Fits ∧
      ofJson? Sample.misplacedValue = some Sample.misplaced ∧
      ofJson? Sample.misplaced.toJson = some Sample.misplaced ∧
      pathField? Sample.misplacedValue =
        some (.array [.string "0", .number (.integer 0)]) := by
  have read : ofJson? Sample.misplacedValue = some Sample.misplaced := rfl
  have fits : Sample.misplaced.Fits := fits_of_ofJson? read
  have survives := survives_rewriting Sample.misplaced Sample.misplacedValue
  exact ⟨fits, read, survives.1 fits, ((survives.2 read).2.2 _ rfl).1⟩

end GraphqlError
end GraphPipeline
