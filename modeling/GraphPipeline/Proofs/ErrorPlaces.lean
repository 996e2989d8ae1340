import GraphPipeline.Proofs.Evaluation.ErrorPlaces
import GraphPipeline.Proofs.Mirroring

/-!
# Places of errors

The path of an error of a first evaluation names the place of the value the
error is about.  It is that place if no jump of the program leaves the current
element, and else the place may be reached by leaving out segments of the path.
-/

namespace GraphPipeline

namespace Program

mutual

/-- Every jump goes to the current element itself, which is bound at the depths
that are at hand. -/
def jumpsAtHandFrom (atHand : Nat → Bool) : Program → Bool
  | .field _ inner => jumpsAtHandFrom (fun _ => false) inner
  | .readScalar _ _ => true
  | .optional inner => jumpsAtHandFrom atHand inner
  | .mapList _ inner => jumpsAtHandFrom (fun _ => false) inner
  | .narrow _ _ inner => jumpsAtHandFrom atHand inner
  | .buildRecord fields => jumpsAtHandOfFields atHand fields
  | .enforceSingle inner => jumpsAtHandFrom atHand inner
  | .toDictionary entry => jumpsAtHandFrom (fun _ => false) entry
  | .keyValue key value =>
    jumpsAtHandFrom atHand key && jumpsAtHandFrom atHand value
  | .subquerySink _ _ inner => jumpsAtHandFrom (fun _ => false) inner
  | .bind depth inner =>
    jumpsAtHandFrom (Function.update atHand depth true) inner
  | .parameter depth inner => atHand depth && jumpsAtHandFrom atHand inner

def jumpsAtHandOfFields (atHand : Nat → Bool) : List (String × Program) → Bool
  | [] => true
  | (_, program) :: fields =>
      jumpsAtHandFrom atHand program && jumpsAtHandOfFields atHand fields

end

/-- No jump leaves the current element, which is the root of the data at
first. -/
def jumpsAtHand (program : Program) : Bool :=
  program.jumpsAtHandFrom fun depth => depth == 0

theorem jumpsAtHandOfFields_iff {atHand : Nat → Bool}
    {fields : List (String × Program)} :
    jumpsAtHandOfFields atHand fields = true ↔
      ∀ field ∈ fields, field.2.jumpsAtHandFrom atHand = true := by
  induction fields with
  | nil => simp [jumpsAtHandOfFields]
  | cons field fields induction => simp [jumpsAtHandOfFields, induction]

theorem jumpsAtHandFrom_guarded (atHand : Nat → Bool) (type : TypeRef)
    (inner : Program) :
    (inner.guarded type).jumpsAtHandFrom atHand =
      inner.jumpsAtHandFrom atHand := by
  unfold guarded
  split <;> rfl

theorem PartOf.guarded {whole inner : Program} {type : TypeRef}
    (part : whole.PartOf (inner.guarded type)) : whole.PartOf inner := by
  unfold Program.guarded at part
  split at part
  · exact part.optional
  · exact part

end Program

section standing

variable {inPlace : Prop} {data value : Json} {trail : List PathSegment}
  {bindings : Nat → Option Json} {places : Places} {atHand : Nat → Bool}

/-- The value stands in the data, or is the list taken for a null list of
nodes. -/
def Stood (inPlace : Prop) (data : Json) (trail : List PathSegment)
    (value : Json) :
    Extent → Prop
  | .object _ => ∃ place, Standing inPlace data trail.reverse place value
  | .items _ _ =>
      value = .array [] ∨
        ∃ place, Standing inPlace data trail.reverse place value

theorem Standing.stood {recorded place : ResponsePath} (extent : Extent)
    (standing : Standing inPlace data recorded place value)
    (same : trail.reverse = recorded) :
    Stood inPlace data trail value extent := by
  subst recorded
  cases extent with
  | object _ => exact ⟨place, standing⟩
  | items _ _ => exact Or.inr ⟨place, standing⟩

theorem ItemsStand.standing {recorded : ResponsePath} {items : List Json}
    {start index : Nat} {item : Json}
    (stand : ItemsStand inPlace data trail.reverse recorded items start)
    (found : items[index]? = some item) :
    Standing inPlace data (PathSegment.index (start + index) :: trail).reverse
      (recorded ++ [.index (start + index)]) item := by
  rw [List.reverse_cons]
  exact stand index item found

/-- What is bound when a program is evaluated on a value. -/
structure Ready (inPlace : Prop) (data : Json) (trail : List PathSegment)
    (bindings : Nat → Option Json) (places : Places) (atHand : Nat → Bool)
    (value : Json) : Prop where
  atHand :
    inPlace → ∀ depth, atHand depth = true → bindings depth = some value ∧
      ∃ place, Standing inPlace data trail.reverse place value
  passed : Passed data trail.reverse bindings
  held : ∀ depth, (places depth).isSome = true → (bindings depth).isSome = true

/-- Further down no element is at hand. -/
theorem Ready.below {segment : PathSegment} {other : Json}
    (ready : Ready inPlace data trail bindings places atHand value) :
    Ready inPlace data (segment :: trail) bindings places (fun _ => false)
      other where
  atHand := fun _ _ hand => by cases hand
  passed := by
    rw [List.reverse_cons]
    exact ready.passed.mono (List.sublist_append_left _ _)
  held := ready.held

theorem Ready.bind {recorded : ResponsePath} {depth : Nat} {place : Place}
    (ready : Ready inPlace data trail bindings places atHand value)
    (standing : Standing inPlace data trail.reverse recorded value) :
    Ready inPlace data trail (Function.update bindings depth (some value))
      (Function.update places depth (some place))
        (Function.update atHand depth true)
      value where
  atHand := by
    intro holds other hand
    by_cases same : other = depth
    · subst other
      exact ⟨Function.update_self .., recorded, standing⟩
    · rw [Function.update_of_ne same] at hand ⊢
      exact ready.atHand holds other hand
  passed := ready.passed.update standing depth
  held := by
    intro other bound
    by_cases same : other = depth
    · subst other
      rw [Function.update_self]
      rfl
    · rw [Function.update_of_ne same] at bound ⊢
      exact ready.held other bound

/-- A jump goes to an element that stands somewhere, and to the current one if
it has to stay in place. -/
theorem Ready.jump {depth : Nat} {element : Json}
    (ready : Ready inPlace data trail bindings places atHand value)
    (hand : inPlace → atHand depth = true)
    (bound : bindings depth = some element) :
    (∃ place, Standing inPlace data trail.reverse place element) ∧
      Ready inPlace data trail bindings places atHand element := by
  by_cases holds : inPlace
  · obtain ⟨current, standing⟩ := ready.atHand holds depth (hand holds)
    obtain rfl : value = element := Option.some.inj (current.symm.trans bound)
    exact ⟨standing, ready⟩
  · obtain ⟨place, sublist, found⟩ := ready.passed depth element bound
    refine ⟨⟨place, ⟨sublist, fun yes => absurd yes holds⟩, found⟩, ?_⟩
    exact ⟨fun yes => absurd yes holds, ready.passed, ready.held⟩

end standing

namespace Evaluate

variable {inPlace : Prop} {whole : Program} {data value : Json}
  {trail : List PathSegment} {bindings : Nat → Option Json} {places : Places}

theorem guarded_locates {type : TypeRef} {inner : Program}
    {place : ResponsePath} {post : Json → Prop} (null : post .null)
    (standing : Standing inPlace data trail.reverse place value)
    (inside :
      Locates inPlace whole data trail bindings post
        (program none inner value)) :
    Locates inPlace whole data trail bindings post
      (program none (inner.guarded type) value) := by
  unfold Program.guarded
  split
  · unfold program
    by_cases isNull : value = .null
    · subst value
      exact absent_locates null standing.toNames (Or.inl standing.found)
    · rw [Json.isNull_eq_false isNull]
      exact inside
  · exact inside

theorem fieldPrograms_stays {fields : List (String × Program)}
    (each :
      ∀ field ∈ fields, Stays inPlace whole data trail bindings (fun _ => True)
        (program none field.2 value)) :
    Stays inPlace whole data trail bindings (fun _ => True)
      (fieldPrograms none fields value) := by
  induction fields with
  | nil => exact stays_pure trivial
  | cons field fields induction =>
      unfold fieldPrograms
      apply Stays.bind (each field List.mem_cons_self)
      intro _ _
      apply Stays.bind (induction fun other member => each other
        (List.mem_cons_of_mem _ member))
      intro _ _
      exact stays_pure trivial

/-- The items of a list, or of the list taken for a null list of nodes. -/
theorem itemsOf_stood {element : TypeRef} {listed : Place}
    (stood : Stood inPlace data trail value (.items element listed)) :
    Stays inPlace whole data trail bindings
      (fun items =>
        ∃ place, ItemsStand inPlace data trail.reverse place items 0)
      (itemsOf value) := by
  rcases stood with rfl | ⟨place, standing⟩
  · apply stays_pure
    refine ⟨[], ?_⟩
    intro index item found
    cases found
  · apply (itemsOf_stays standing).imp (fun _ start => start)
    rintro items state ⟨start, rfl⟩
    exact ⟨start, place, standing.itemsStand⟩

/-- Wherever the program is evaluated on a value of the extent that stands in
the data, it fails with errors that name the places of what they are about. -/
def LocatesOn (inPlace : Prop) (whole : Program) (data : Json) (places : Places)
    (extent : Extent) (program : Program) : Prop :=
  ∀ ⦃trail bindings atHand value⦄, whole.PartOf program →
    (inPlace → program.jumpsAtHandFrom atHand = true) →
    Ready inPlace data trail bindings places atHand value →
    Stood inPlace data trail value extent →
      Locates inPlace whole data trail bindings
        (fun result => program.isEntry = true → result.IsEntry)
        (Evaluate.program none program value)

namespace LocatesOn

variable {place : Place} {extent : Extent} {inner : Program}

theorem readScalar {key : String} {type : TypeRef} :
    LocatesOn inPlace whole data places (.object place)
      (.readScalar key type) := by
  intro trail bindings atHand value part jumps ready stood
  obtain ⟨place, standing⟩ := stood
  unfold Evaluate.program
  exact readLeaf_locates part standing fun _ entry => by cases entry

theorem field {key : String} {type : TypeRef}
    (inside : LocatesOn inPlace whole data places extent inner) :
    LocatesOn inPlace whole data places (.object place)
      (.field key (inner.guarded type)) := by
  intro trail bindings atHand value part jumps ready stood
  obtain ⟨path, standing⟩ := stood
  unfold Evaluate.program
  apply Stays.bind (memberOf_stays standing key)
  intro below found
  have belowStanding :
      Standing inPlace data (PathSegment.key key :: trail).reverse
        (path ++ [.key key]) below := by
    rw [List.reverse_cons]
    exact standing.child found
  apply within_locates
  apply guarded_locates (fun _ => Or.inl rfl) belowStanding
  simp only [Program.isEntry, isEntry_guarded]
  apply inside part.field.guarded
  · intro holds
    simpa only [Program.jumpsAtHandFrom, Program.jumpsAtHandFrom_guarded]
      using jumps holds
  · exact ready.below
  · exact belowStanding.stood _ rfl

/-- The item of a list is evaluated one step further down, where no element is
at hand. -/
theorem item {element : TypeRef} {items : List Json} {path : ResponsePath}
    {index : Nat} {listed item : Json}
    (inside : LocatesOn inPlace whole data places (.object place) inner)
    (part : whole.PartOf (inner.guarded element))
    (jumps :
      inPlace → (inner.guarded element).jumpsAtHandFrom (fun _ => false) = true)
    {atHand : Nat → Bool}
    (ready : Ready inPlace data trail bindings places atHand listed)
    (stand : ItemsStand inPlace data trail.reverse path items 0)
    (found : items[index]? = some item) :
    Locates inPlace whole data (.index (0 + index) :: trail) bindings
      (fun result => inner.isEntry = true → result.IsEntry)
      (Evaluate.program none (inner.guarded element) item) := by
  have itemStanding := stand.standing found
  apply guarded_locates (fun _ => Or.inl rfl) itemStanding
  apply inside part.guarded _ ready.below (itemStanding.stood _ rfl)
  intro holds
  simpa only [Program.jumpsAtHandFrom_guarded] using jumps holds

theorem mapList {element : TypeRef} {listed : Place} {filters : Nat}
    (inside : LocatesOn inPlace whole data places (.object place) inner) :
    LocatesOn inPlace whole data places (.items element listed)
      (.mapList filters (inner.guarded element)) := by
  intro trail bindings atHand value part jumps ready stood
  unfold Evaluate.program
  apply Stays.bind (itemsOf_stood stood)
  rintro items ⟨path, stand⟩
  refine Stays.bind (isolated_stays (mapItems_stays ?_)) ?_
  · intro index item found
    apply Locates.stays
    apply (inside.item part.mapList jumps ready stand found).imp
      (fun _ start => start)
    exact fun _ _ ending => ⟨ending.1, trivial, ending.2.2⟩
  · intro outputs _
    apply pure_locates _ rfl
    intro entry
    cases entry

theorem toDictionary {element : TypeRef} {listed : Place}
    (shape : inner.isEntry = true)
    (inside : LocatesOn inPlace whole data places (.object place) inner) :
    LocatesOn inPlace whole data places (.items element listed)
      (.toDictionary (inner.guarded element)) := by
  intro trail bindings atHand value part jumps ready stood
  unfold Evaluate.program
  apply Stays.bind (itemsOf_stood stood)
  rintro items ⟨path, stand⟩
  refine Stays.bind (addEntries_stays part ready.passed .empty stand ?_) ?_
  · intro index item found
    apply Locates.stays
    apply (inside.item part.toDictionary jumps ready stand found).imp
      (fun _ start => start)
    exact fun _ _ ending => ⟨ending.1, ending.2.1 shape, ending.2.2⟩
  · intro dictionary _
    apply pure_locates _ rfl
    intro entry
    cases entry

theorem narrow {typeName : String} {mode : NarrowingMode} {other : Place}
    (inside : LocatesOn inPlace whole data places (.object other) inner) :
    LocatesOn inPlace whole data places (.object place)
      (.narrow typeName mode inner) := by
  intro trail bindings atHand value part jumps ready stood
  obtain ⟨place, standing⟩ := stood
  unfold Evaluate.program
  apply narrowed_locates part standing fun _ => Or.inl rfl
  exact inside part.narrow jumps ready ⟨place, standing⟩

theorem buildRecord {fields : List (String × Program)}
    (each :
      ∀ field ∈ fields,
        LocatesOn inPlace whole data places (.object place) field.2) :
    LocatesOn inPlace whole data places (.object place)
      (.buildRecord fields) := by
  intro trail bindings atHand value part jumps ready stood
  unfold Evaluate.program
  refine Stays.bind (fieldPrograms_stays ?_) ?_
  · intro field member
    apply Locates.stays
    apply (each field member (part.buildRecord member) _ ready stood).imp
      (fun _ start => start)
    · exact fun _ _ ending => ⟨ending.1, trivial, ending.2.2⟩
    · intro holds
      exact Program.jumpsAtHandOfFields_iff.mp (jumps holds) field member
  · intro members _
    apply pure_locates _ rfl
    intro entry
    cases entry

theorem enforceSingle
    (inside : LocatesOn inPlace whole data places extent inner) :
    LocatesOn inPlace whole data places extent (.enforceSingle inner) := by
  intro trail bindings atHand value part jumps ready stood
  unfold Evaluate.program
  apply (required_locates (inside part.enforceSingle jumps ready stood)).imp
    (fun _ start => start)
  exact fun _ _ ending => ⟨ending.1, (fun entry => by cases entry), ending.2.2⟩

theorem keyValue {key value : Program}
    (keyLocates : LocatesOn inPlace whole data places (.object place) key)
    (valueLocates : LocatesOn inPlace whole data places (.object place) value) :
    LocatesOn inPlace whole data places (.object place)
      (.keyValue key value) := by
  intro trail bindings atHand element part jumps ready stood
  have both : inPlace → _ ∧ _ :=
    fun holds => Bool.and_eq_true_iff.mp (jumps holds)
  unfold Evaluate.program
  apply Stays.bind
    (keyLocates part.key (fun holds => (both holds).1) ready stood).stays
  intro key _
  apply Stays.bind
    (valueLocates part.value (fun holds => (both holds).2) ready stood).stays
  intro member _
  exact pure_locates (fun _ => Or.inr ⟨key, member, rfl⟩) rfl

theorem subquerySink {id : SubqueryId} {keys : PageKeys} {element : TypeRef}
    {listed : Place}
    (inside :
      LocatesOn inPlace whole data places (.items element listed) inner) :
    LocatesOn inPlace whole data places (.object place)
      (.subquerySink id keys inner) := by
  intro trail bindings atHand value part jumps ready stood
  obtain ⟨path, standing⟩ := stood
  unfold Evaluate.program
  apply Stays.bind (nodesOf_stays standing)
  rintro _ ⟨member, found, rfl⟩
  apply within_locates
  apply (inside part.subquerySink jumps ready.below _).imp
    (fun _ start => start)
  · exact fun _ _ ending =>
      ⟨ending.1, (fun entry => by cases entry), ending.2.2⟩
  · by_cases isNull : member = .null
    · subst member
      exact Or.inl rfl
    · rw [Json.isNull_eq_false isNull]
      have below :
          Standing inPlace data (trail.reverse ++ [PathSegment.key keys.nodes])
            (path ++ [PathSegment.key keys.nodes]) member :=
        standing.child found
      exact below.stood _ (List.reverse_cons ..)

theorem bind {depth : Nat}
    (inside :
      LocatesOn inPlace whole data (Function.update places depth (some place))
        (.object place) inner) :
    LocatesOn inPlace whole data places (.object place)
      (.bind depth inner) := by
  intro trail bindings atHand value part jumps ready stood
  obtain ⟨path, standing⟩ := stood
  unfold Evaluate.program
  apply binding_locates
  exact inside part.bind jumps (ready.bind standing) ⟨path, standing⟩

theorem parameter {depth : Nat} (known : places depth = some place)
    (inside : LocatesOn inPlace whole data places (.object place) inner) :
    LocatesOn inPlace whole data places extent (.parameter depth inner) := by
  intro trail bindings atHand value part jumps ready stood
  have both : inPlace → _ ∧ _ :=
    fun holds => Bool.and_eq_true_iff.mp (jumps holds)
  obtain ⟨element, bound⟩ := Option.isSome_iff_exists.mp
    (ready.held depth (by rw [known]; rfl))
  obtain ⟨standing, there⟩ := ready.jump (fun holds => (both holds).1) bound
  unfold Evaluate.program
  apply Triple.bind triple_get
  intro state
  apply Triple.of_each
  rintro last ⟨rfl, start⟩
  have sameBinding : state.binding? depth = some element := by
    rw [start.2, bound]
  rw [sameBinding]
  apply (inside part.parameter (fun holds => (both holds).2) there standing).imp
  · rintro _ rfl
    exact start
  · exact fun _ _ held => held

end LocatesOn

/-- A fitting program that is evaluated where it stands fails with errors that
name the places of what they are about. -/
theorem fits_locates {document : CompileState} {isOpen : List String → Prop}
    {extent : Extent} {program : Program}
    (fits : Fits document isOpen places extent program) :
    LocatesOn inPlace whole data places extent program := by
  induction fits with
  | readScalar _ _ _ => exact .readScalar
  | field _ _ _ _ induction => exact .field induction
  | mapList _ _ induction => exact .mapList induction
  | toDictionary _ shape _ induction => exact .toDictionary shape induction
  | narrow _ _ _ _ induction => exact .narrow induction
  | buildRecord _ induction => exact .buildRecord induction
  | enforceSingle _ induction => exact .enforceSingle induction
  | keyValue _ _ keyInduction valueInduction =>
    exact .keyValue keyInduction valueInduction
  | subquerySink _ _ _ _ _ _ _ _ _ _ _ _ _ _ _ _ _ induction =>
      exact .subquerySink induction
  | bind _ induction => exact .bind induction
  | parameter known _ induction => exact .parameter known induction

end Evaluate

/-- An error of the first evaluation of a compiled program is about a value of
the data.  Its path names the place of the value: it leads there if no jump of
the program leaves the current element, and else with some of its segments left
out. -/
theorem compiled_error_placed {pipeline : Pipeline}
    {compiled : CompiledOperation} {data : Json} {error : ExtractionError}
    (success : compile pipeline = .ok compiled)
    (failed : compiled.program.collect data = .error error) :
    ∃ place, List.Sublist place error.path ∧
      error.IsAbout compiled.program data place ∧
        (compiled.program.jumpsAtHand = true → place = error.path) := by
  obtain ⟨kind, document, outcome, fits⟩ := fits_of_compile success
  have standing : ∀ inPlace, Standing inPlace data [] [] data :=
    fun inPlace => ⟨⟨List.Sublist.refl [], fun _ => rfl⟩, rfl⟩
  have root : ∀ depth, (depth == 0) = true →
      (EvaluationState.initial data).binding? depth = some data := by
    intro depth atRoot
    obtain rfl := beq_iff_eq.mp atRoot
    rfl
  have ready : Ready (compiled.program.jumpsAtHand = true) data []
      (EvaluationState.initial data).binding? Places.root
        (fun depth => depth == 0) data := by
    constructor
    · intro _ depth atRoot
      exact ⟨root depth atRoot, [], standing _⟩
    · intro depth value bound
      rw [binding?_initial] at bound
      cases depth with
      | zero =>
          cases bound
          exact ⟨[], List.Sublist.refl [], rfl⟩
      | succ depth => cases bound
    · intro depth known
      cases depth with
      | zero => rfl
      | succ depth => cases known
  have located := Evaluate.fits_locates fits .self id ready ⟨[], standing _⟩
  obtain ⟨place, names, about⟩ :=
    located.error ⟨rfl, rfl⟩
      (Prod.ext (Evaluate.collect_eq_error.mp failed) rfl)
  exact ⟨place, names.sublist, about, names.same⟩

namespace Sample

/-- Every item goes back to the query for its viewer, which it must have. -/
def requiredViewer : Pipeline :=
  itemRecords [("me", (((Pipeline.parameter "q").property
    (viewer (TypeRef.object "User"))).property login).single)]

/-- One item without a title, and no viewer. -/
def bareItem : Json :=
  .object
    [("items",
      .array [.object [(typenameKey, .string "Item"), ("title", .null)]]),
     ("viewer", .null)]

/-- Where a member of the item stands. -/
def inItem (key : String) : ResponsePath :=
  [.key "items", .index 0, .key key]

end Sample

/-- The path of the error leads to the missing title. -/
theorem collect_ownTitles_placed :
    ∃ compiled, compile Sample.ownTitles = .ok compiled ∧
      compiled.program.collect Sample.bareItem =
        .error (.unexpectedNull (Sample.inItem "title")) ∧
      Sample.bareItem.follow? (Sample.inItem "title") = some .null := by
  have evaluated : (compile Sample.ownTitles).map (fun compiled =>
      (compiled.program.jumpsAtHand,
       (compiled.program.collect Sample.bareItem).map Prod.fst)) =
        .ok (true, .error (.unexpectedNull (Sample.inItem "title"))) := by
    cbv
  obtain ⟨compiled, success, facts⟩ := Evaluate.map_eq_ok.mp evaluated
  obtain ⟨inPlace, failed⟩ := Prod.mk.inj facts
  have failed := Evaluate.map_eq_error.mp failed
  obtain ⟨place, _, about, same⟩ := compiled_error_placed success failed
  obtain rfl := same inPlace
  exact ⟨compiled, success, failed, about⟩

/-- The path of the error leads below the item, while the missing viewer stands
at the root. -/
theorem requiredViewer_misplaced :
    ∃ compiled, compile Sample.requiredViewer = .ok compiled ∧
      compiled.program.collect Sample.bareItem =
        .error (.absent (Sample.inItem "viewer")) ∧
      ¬ (ExtractionError.absent (Sample.inItem "viewer")).IsAbout
        compiled.program Sample.bareItem (Sample.inItem "viewer") := by
  have evaluated : (compile Sample.requiredViewer).map (fun compiled =>
      (compiled.program.collect Sample.bareItem).map Prod.fst) =
        .ok (.error (.absent (Sample.inItem "viewer"))) := by
    cbv
  obtain ⟨compiled, success, failed⟩ := Evaluate.map_eq_ok.mp evaluated
  refine ⟨compiled, success, Evaluate.map_eq_error.mp failed, ?_⟩
  have nowhere : Sample.bareItem.follow? (Sample.inItem "viewer") = none := by
    decide +kernel
  rintro (null | ⟨value, _, _, _, found, _⟩)
  · rw [nowhere] at null
    cases null
  · rw [nowhere] at found
    cases found

end GraphPipeline
