import GraphPipeline.Proofs.ConflictFreedom
import GraphPipeline.Proofs.Conformance
import GraphPipeline.Proofs.Evaluation.Settling

/-!
# Programs that fit a document

A program fits at a place of a document when all it reads is selected there.
The judgement follows the program from the objects of one selection set to the
objects below them, and knows the places whose objects are bound at each depth.
A fitting program finds everything it needs in a response that conforms to the
document.
-/

namespace GraphPipeline

namespace Program

/-- The program of the values of a type that are not null. -/
def guarded (type : TypeRef) (inner : Program) : Program :=
  if type.isNullable then .optional inner else inner

/-- Whether the results are entries of dictionaries. -/
def isEntry : Program → Bool
  | .keyValue _ _ => true
  | .field _ inner => inner.isEntry
  | .optional inner => inner.isEntry
  | .narrow _ _ inner => inner.isEntry
  | .bind _ inner => inner.isEntry
  | .parameter _ inner => inner.isEntry
  | _ => false

end Program

namespace Selections

/-- A set that holds selections on the objects at a response path. -/
inductive ReachesSet (selections : Selections) :
    List String → SetId → Prop where
  | root : ReachesSet selections [] rootId
  | fragment {path : List String} {id inner : SetId} {typeName : String} :
      ReachesSet selections path id →
      Entries.lookup? (selections.set id).fragments typeName = some inner →
      ReachesSet selections path inner
  | field {path : List String} {id inner : SetId} {record : FieldRecord} :
      ReachesSet selections path id → record ∈ (selections.set id).fields →
      record.child = some inner →
        ReachesSet selections (path ++ [record.key]) inner

/-- A connection is selected at a path with the cursor a variable holds. -/
def CursorAt (selections : Selections) (path : List String)
    (variableName : String) :
    Prop :=
  ∃ parent id record name arguments, selections.ReachesSet parent id ∧
    record ∈ (selections.set id).fields ∧ path = parent ++ [record.key] ∧
      record.signature =
        signature name (arguments ++ [⟨"after", .variableRef variableName⟩])

end Selections

/-- The objects at a response path that have the selections of one set.  They
are repeated if a list is on the path. -/
structure Place where
  set : SetId
  path : List String
  repeated : Bool

namespace Place

/-- The objects, or lists of objects, below a key. -/
def below (place : Place) (key : String) (set : SetId) : Place :=
  { set, path := place.path ++ [key], repeated := place.repeated }

def inList (place : Place) : Place :=
  { place with repeated := true }

/-- The fields of the objects can be read one by one, as their path says or
because they are inside of a list. -/
def Readable (isOpen : List String → Prop) (place : Place) : Prop :=
  place.repeated = true ∨ isOpen place.path

end Place

/-- An object of a place, or a list of objects of a place. -/
inductive Extent where
  | object (place : Place)
  | items (element : TypeRef) (place : Place)

/-- The values of a type that are not null. -/
def Extent.of (type : TypeRef) (place : Place) : Extent :=
  match type.element? with
  | none => .object place
  | some element => .items element place

/-- The places of the objects bound at each depth. -/
abbrev Places := Nat → Option Place

/-- A program that can be evaluated at a location of a document. -/
inductive Fits (document : CompileState) (isOpen : List String → Prop) :
    Places → Extent → Program → Prop where
  | readScalar {places : Places} {place : Place} {record : FieldRecord} :
      record ∈ (document.selections.set place.set).fields →
        record.child = none →
      place.Readable isOpen →
      Fits document isOpen places (.object place)
        (.readScalar record.key record.type)
  | field {places : Places} {place : Place} {record : FieldRecord} {set : SetId}
      {inner : Program} :
      record ∈ (document.selections.set place.set).fields →
        record.child = some set →
      place.Readable isOpen →
      Fits document isOpen places
        (Extent.of record.type (place.below record.key set)) inner →
      Fits document isOpen places (.object place)
        (.field record.key (inner.guarded record.type))
  | mapList {places : Places} {place : Place} {element : TypeRef}
      {filters : Nat} {inner : Program} :
      element.element? = none →
      Fits document isOpen places (.object place.inList) inner →
      Fits document isOpen places (.items element place)
        (.mapList filters (inner.guarded element))
  | toDictionary {places : Places} {place : Place} {element : TypeRef}
      {entry : Program} :
      element.element? = none → entry.isEntry = true →
      Fits document isOpen places (.object place.inList) entry →
      Fits document isOpen places (.items element place)
        (.toDictionary (entry.guarded element))
  | narrow {places : Places} {place : Place} {typeName : String}
      {mode : NarrowingMode} {set : SetId} {inner : Program} :
      Entries.lookup? (document.selections.set place.set).fragments typeName =
        some set →
      (document.selections.set place.set).requiresTypename = true →
      place.Readable isOpen →
      Fits document isOpen places (.object { place with set }) inner →
      Fits document isOpen places (.object place) (.narrow typeName mode inner)
  | buildRecord {places : Places} {place : Place}
      {fields : List (String × Program)} :
      (∀ field ∈ fields, Fits document isOpen places (.object place) field.2) →
      Fits document isOpen places (.object place) (.buildRecord fields)
  | enforceSingle {places : Places} {extent : Extent} {inner : Program} :
      Fits document isOpen places extent inner →
      Fits document isOpen places extent (.enforceSingle inner)
  | keyValue {places : Places} {place : Place} {key value : Program} :
      Fits document isOpen places (.object place) key →
      Fits document isOpen places (.object place) value →
      Fits document isOpen places (.object place) (.keyValue key value)
  | subquerySink {places : Places} {place : Place} {id : SubqueryId}
      {subquery : Subquery} {pageInfo hasNextPage endCursor nodes : FieldRecord}
      {info set : SetId} {element : TypeRef} {inner : Program} :
      document.subqueries[id]? = some subquery → subquery.path = place.path →
      place.repeated = false →
      document.selections.CursorAt place.path subquery.variableName →
      document.selections.ReachesSet place.path place.set →
      pageInfo ∈ (document.selections.set place.set).fields →
      pageInfo.type = pageInfoField.type → pageInfo.child = some info →
      hasNextPage ∈ (document.selections.set info).fields →
      hasNextPage.type = hasNextPageField.type →
      endCursor ∈ (document.selections.set info).fields →
      endCursor.type = endCursorField.type →
      nodes ∈ (document.selections.set place.set).fields →
        nodes.child = some set →
      nodes.type.element? = some element →
      subquery.keys =
        ⟨nodes.key, pageInfo.key, hasNextPage.key, endCursor.key⟩ →
      Fits document isOpen places
        (.items element (place.below nodes.key set).inList) inner →
      Fits document isOpen places (.object place)
        (.subquerySink id subquery.keys inner)
  | bind {places : Places} {place : Place} {depth : Nat} {inner : Program} :
      Fits document isOpen (Function.update places depth (some place))
        (.object place) inner →
      Fits document isOpen places (.object place) (.bind depth inner)
  | parameter {places : Places} {place : Place} {extent : Extent} {depth : Nat}
      {inner : Program} :
      places depth = some place →
      Fits document isOpen places (.object place) inner →
      Fits document isOpen places extent (.parameter depth inner)

variable {document : CompileState} {isOpen : List String → Prop}

theorem readsBound_guarded (depth : Nat) (type : TypeRef) (inner : Program) :
    (inner.guarded type).readsBound depth = inner.readsBound depth := by
  unfold Program.guarded
  split <;> rfl

theorem readsBoundInFields_iff {depth : Nat}
    {fields : List (String × Program)} :
    Program.readsBoundInFields depth fields = true ↔
      ∃ field ∈ fields, field.2.readsBound depth = true := by
  induction fields with
  | nil => simp [Program.readsBoundInFields]
  | cons field fields induction => simp [Program.readsBoundInFields, induction]

/-- Only the depths a program reads need to be bound as they were. -/
theorem Fits.of_agrees {places other : Places} {extent : Extent}
    {program : Program}
    (fits : Fits document isOpen places extent program)
    (agrees :
      ∀ depth, program.readsBound depth = true → other depth = places depth) :
    Fits document isOpen other extent program := by
  induction fits generalizing other with
  | readScalar member leaf readable => exact .readScalar member leaf readable
  | field member child readable _ induction =>
      refine .field member child readable
        (induction fun depth reads => agrees depth ?_)
      simpa only [Program.readsBound, readsBound_guarded] using reads
  | mapList single _ induction =>
      refine .mapList single (induction fun depth reads => agrees depth ?_)
      simpa only [Program.readsBound, readsBound_guarded] using reads
  | toDictionary single entry _ induction =>
      refine .toDictionary single entry
        (induction fun depth reads => agrees depth ?_)
      simpa only [Program.readsBound, readsBound_guarded] using reads
  | narrow found required readable _ induction =>
      exact .narrow found required readable (induction agrees)
  | buildRecord _ induction =>
      refine .buildRecord
        fun field member => induction field member fun depth reads =>
        agrees depth ?_
      exact readsBoundInFields_iff.mpr ⟨field, member, reads⟩
  | enforceSingle _ induction => exact .enforceSingle (induction agrees)
  | keyValue _ _ keyInduction valueInduction =>
      refine .keyValue (keyInduction fun depth reads => agrees depth ?_)
        (valueInduction fun depth reads => agrees depth ?_)
      · simp [Program.readsBound, reads]
      · simp [Program.readsBound, reads]
  | subquerySink found path once cursor reached info infoType infoChild next
      nextType last lastType nodes nodesChild element keys _ induction =>
      exact .subquerySink found path once cursor reached info infoType infoChild
        next nextType last lastType nodes nodesChild element keys
        (induction agrees)
  | @bind places place depth inner _ induction =>
      refine .bind (induction fun bound reads => ?_)
      by_cases same : bound = depth
      · subst bound
        simp
      · rw [Function.update_of_ne same, Function.update_of_ne same]
        exact agrees bound (by simp [Program.readsBound, reads, Ne.symm same])
  | @parameter places place extent depth inner bound _ induction =>
      refine .parameter ((agrees depth ?_).trans bound)
        (induction fun other reads =>
        agrees other ?_)
      · simp [Program.readsBound]
      · simp [Program.readsBound, reads]

/-- A fitting program reads places that are bound. -/
theorem Fits.isSome_of_readsBound {places : Places} {extent : Extent}
    {program : Program} (fits : Fits document isOpen places extent program) :
    ∀ depth,
      program.readsBound depth = true → (places depth).isSome = true := by
  induction fits with
  | readScalar _ _ _ =>
      intro depth reads
      simp [Program.readsBound] at reads
  | field _ _ _ _ induction =>
      intro depth reads
      exact induction depth
        (by simpa [Program.readsBound, readsBound_guarded] using reads)
  | mapList _ _ induction =>
      intro depth reads
      exact induction depth
        (by simpa [Program.readsBound, readsBound_guarded] using reads)
  | toDictionary _ _ _ induction =>
      intro depth reads
      exact induction depth
        (by simpa [Program.readsBound, readsBound_guarded] using reads)
  | narrow _ _ _ _ induction => exact induction
  | buildRecord _ induction =>
      intro depth reads
      obtain ⟨field, member, reads⟩ := readsBoundInFields_iff.mp reads
      exact induction field member depth reads
  | enforceSingle _ induction => exact induction
  | keyValue _ _ keyInduction valueInduction =>
      intro depth reads
      simp only [Program.readsBound, Bool.or_eq_true] at reads
      exact reads.elim (keyInduction depth) (valueInduction depth)
  | subquerySink _ _ _ _ _ _ _ _ _ _ _ _ _ _ _ _ _ induction => exact induction
  | @bind places place bound inner _ induction =>
      intro depth reads
      simp only [Program.readsBound, Bool.and_eq_true, bne_iff_ne,
        ne_eq] at reads
      have found := induction depth reads.2
      rwa [Function.update_of_ne (Ne.symm reads.1)] at found
  | @parameter places place extent bound inner found _ induction =>
      intro depth reads
      simp only [Program.readsBound, Bool.or_eq_true, beq_iff_eq] at reads
      rcases reads with rfl | reads
      · simp [found]
      · exact induction depth reads

theorem Fits.bindIfRead {places : Places} {place : Place} {depth : Nat}
    {inner : Program}
    (fits : Fits document isOpen (Function.update places depth (some place))
      (.object place) inner) :
    Fits document isOpen places (.object place) (inner.bindIfRead depth) := by
  unfold Program.bindIfRead
  split
  · exact .bind fits
  · rename_i unread
    refine fits.of_agrees fun other reads => ?_
    have different : other ≠ depth := by
      intro same
      subst other
      exact unread reads
    rw [Function.update_of_ne different]

end GraphPipeline
