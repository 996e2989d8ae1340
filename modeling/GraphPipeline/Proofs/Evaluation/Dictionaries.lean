import GraphPipeline.Proofs.Evaluation.Agreement
import GraphPipeline.Proofs.Evaluation.Verdicts

/-!
# Dictionaries

The list a dictionary is built from, and the way of each of its elements to its
entry.  An element is skipped, or gives a key and a value, or its evaluation
fails.  The dictionary has the entries of all elements that are not skipped, or
else the error is that of the first element whose entry cannot be added.
-/

namespace GraphPipeline

namespace Program

/-- The program of the entries of the dictionary a program builds. -/
def entries? : Program → Option Program
  | .toDictionary entry => some entry
  | .field _ inner => inner.entries?
  | .optional inner => inner.entries?
  | .narrow _ _ inner => inner.entries?
  | .subquerySink _ _ inner => inner.entries?
  | .bind _ inner => inner.entries?
  | .parameter _ inner => inner.entries?
  | _ => none

/-- The programs of the key and of the value of an entry. -/
def pair? : Program → Option (Program × Program)
  | .keyValue key value => some (key, value)
  | .field _ inner => inner.pair?
  | .optional inner => inner.pair?
  | .narrow _ _ inner => inner.pair?
  | .bind _ inner => inner.pair?
  | .parameter _ inner => inner.pair?
  | _ => none

/-- A list in the data, the way to it with its last segment first, and what is
bound there. -/
structure Listing where
  bindings : Nat → Option Json
  trail : List PathSegment
  items : List Json

/-- The list a program builds its dictionary from when it is evaluated on a
value. -/
def listing? (given : Option AllNodes) :
    Program → (Nat → Option Json) → List PathSegment → Json → Option Listing
  | .toDictionary _, bindings, trail, .array items =>
    some { bindings, trail, items }
  | .field key inner, bindings, trail, value =>
      match value.member? key with
      | some member => inner.listing? given bindings (.key key :: trail) member
      | none => none
  | .optional inner, bindings, trail, value =>
      if value.isNull then none else inner.listing? given bindings trail value
  | .narrow typeName _ inner, bindings, trail, value =>
      if value.typename? = some typeName then
        inner.listing? given bindings trail value
      else none
  | .subquerySink id keys inner, bindings, trail, value =>
      match Reading.nodes? given ⟨id, keys, value⟩ with
      | some nodes =>
        inner.listing? given bindings (.key keys.nodes :: trail) nodes
      | none => none
  | .bind depth inner, bindings, trail, value =>
      inner.listing? given (Function.update bindings depth (some value)) trail
        value
  | .parameter depth inner, bindings, trail, _ =>
      match bindings depth with
      | some element => inner.listing? given bindings trail element
      | none => none
  | _, _, _, _ => none

/-- Where an element comes to on the way to its entry.  It is skipped if it is
null or becomes null, or if a filter rejects it, and it may fail on the way. -/
inductive Arrival where
  | skipped
  | lost
  | arrived (bindings : Nat → Option Json) (element : Json)

/-- The arrival of an element at the program of its key and its value. -/
def arrival : Program → (Nat → Option Json) → Json → Arrival
  | .keyValue _ _, bindings, value => .arrived bindings value
  | .field key inner, bindings, value =>
      match value.member? key with
      | some member => inner.arrival bindings member
      | none => .lost
  | .optional inner, bindings, value =>
      if value.isNull then .skipped else inner.arrival bindings value
  | .narrow typeName .filter inner, bindings, value =>
      if value.isNull then .skipped
      else
        match value.typename? with
        | some name =>
          if name = typeName then inner.arrival bindings value else .skipped
        | none => .lost
  | .narrow typeName .cast inner, bindings, value =>
      if value.typename? = some typeName then inner.arrival bindings value
      else .lost
  | .bind depth inner, bindings, value =>
      inner.arrival (Function.update bindings depth (some value)) value
  | .parameter depth inner, bindings, _ =>
      match bindings depth with
      | some element => inner.arrival bindings element
      | none => .lost
  | _, _, _ => .lost

/-- What becomes of an element with some bindings, at a place given by its
trail. -/
inductive Decides (given : Option AllNodes) (entry : Program)
    (bindings : Nat → Option Json) (trail : List PathSegment) (item : Json) :
    Verdict → Prop where
  | skipped : entry.arrival bindings item = .skipped →
      Decides given entry bindings trail item .skipped
  | pair {key member : Program} {inside : Nat → Option Json}
      {element text value : Json} :
      entry.pair? = some (key, member) →
        entry.arrival bindings item = .arrived inside element →
      key.Gives given inside element text →
        member.Gives given inside element value →
      Decides given entry bindings trail item (.pair text value)
  | failed {state : EvaluationState} {error : ExtractionError} :
      state.binding? = bindings → state.trail = trail →
      ((Evaluate.program given entry item).result state).1 = .error error →
      Decides given entry bindings trail item (.failed error)

end Program

theorem Json.present_of_typename? {value : Json} {typeName : String}
    (named : value.typename? = some typeName) : value.isNull = false := by
  cases value with
  | null => cases named
  | _ => rfl

theorem Json.lookup?_typename {members : Entries Json} {typeName : String}
    (named : (Json.object members).typename? = some typeName) :
    Entries.lookup? members typenameKey = some (.string typeName) := by
  obtain ⟨found, present, text⟩ := Option.bind_eq_some_iff.mp named
  cases found with
  | string name => rwa [← Option.some.inj text]
  | null => cases text
  | bool value => cases text
  | number value => cases text
  | array items => cases text
  | object members => cases text

namespace Evaluate

variable {given : Option AllNodes} {value : Json}

/-- The outcome is the one a program comes to on a value at some place, with
some bindings. -/
def ComesTo (given : Option AllNodes) (program : Program)
    (bindings : Nat → Option Json) (trail : List PathSegment) (value : Json)
    (outcome : Except ExtractionError Json) : Prop :=
  ∃ start, start.binding? = bindings ∧ start.trail = trail ∧
    outcome = ((Evaluate.program given program value).result start).1

/-! ### The way to the list -/

/-- An object of the type asked for is evaluated where it is. -/
theorem result_narrowed {typeName : String}
    (named : value.typename? = some typeName) (mode : NarrowingMode)
    (evaluate : Json → Evaluate Json) (state : EvaluationState) :
    ∃ start, start.binding? = state.binding? ∧ start.trail = state.trail ∧
      (narrowed typeName mode evaluate value).result state =
        (evaluate value).result start := by
  have present := Json.present_of_typename? named
  have known : typenameOf value = pure typeName := by
    unfold typenameOf
    rw [show (value.member? typenameKey).bind Json.text? =
        value.typename? from rfl, named]
  cases mode with
  | filter =>
      refine ⟨{ state with pendingFilters := state.pendingFilters - 1 }, rfl,
        rfl, ?_⟩
      rw [narrowed_filter present, known, pure_bind, if_pos rfl]
      rfl
  | cast =>
      refine ⟨state, rfl, rfl, ?_⟩
      rw [narrowed_cast present, known, pure_bind, if_pos rfl]

/-- Nodes that can be read are read, unless the connection holds no page. -/
theorem result_nodesOf {id : SubqueryId} {keys : PageKeys} {nodes : Json}
    (found : Reading.nodes? given ⟨id, keys, value⟩ = some nodes)
    (state : EvaluationState) :
    (∃ pages, (nodesOf given id keys value).result state =
      (.ok nodes, { state with pages })) ∨
      ∃ error, error.isRejection = false ∧
        ((nodesOf given id keys value).result state).1 = .error error := by
  unfold Reading.nodes? at found
  unfold nodesOf
  cases listed : given.bind (·.lookup? id) with
  | some listedNodes =>
      simp only [listed, Option.some.injEq] at found
      subst nodes
      exact Or.inl ⟨state.pages, rfl⟩
  | none =>
      simp only [listed] at found
      obtain ⟨member, present, same⟩ := Option.map_eq_some_iff.mp found
      simp only [result_bind, result_memberOf present]
      cases given with
      | some given => exact Or.inl ⟨state.pages, by simp [same]⟩
      | none =>
          simp only [Option.isNone_none, if_true, result_bind]
          rcases result_recordPage id keys value state with
            ⟨pages, recorded⟩ | ⟨error, breach, failed⟩
          · rw [recorded]
            exact Or.inl ⟨pages, by simp [same]⟩
          · rw [failed]
            exact Or.inr ⟨error, breach, rfl⟩

/-- A program that builds a dictionary comes to the outcome it has on the list,
unless a connection on the way holds no page. -/
theorem program_listing (program : Program) {entry : Program}
    (builds : program.entries? = some entry) (state : EvaluationState)
    {value : Json} {listing : Program.Listing}
    (found :
      program.listing? given state.binding? state.trail value = some listing) :
    ComesTo given (.toDictionary entry) listing.bindings listing.trail
      (.array listing.items)
        ((Evaluate.program given program value).result state).1 ∨
      ∃ error, error.isRejection = false ∧
        ((Evaluate.program given program value).result state).1 =
          .error error := by
  cases program with
  | toDictionary own =>
      obtain rfl := Option.some.inj builds
      cases value with
      | array items =>
          obtain rfl := Option.some.inj found
          exact Or.inl ⟨state, rfl, rfl, rfl⟩
      | null => cases found
      | bool value => cases found
      | number value => cases found
      | string value => cases found
      | object members => cases found
  | field key inner =>
      simp only [Program.listing?] at found
      cases present : value.member? key with
      | none => simp [present] at found
      | some member =>
          simp only [present] at found
          simp only [Evaluate.program, result_bind, result_memberOf present,
            result_within]
          exact program_listing inner builds
            { state with trail := .key key :: state.trail } found
  | optional inner =>
      simp only [Program.listing?] at found
      simp only [Evaluate.program]
      cases absence : value.isNull with
      | true => simp [absence] at found
      | false =>
          simp only [absence, Bool.false_eq_true, if_false] at found ⊢
          exact program_listing inner builds _ found
  | narrow typeName mode inner =>
      simp only [Program.listing?] at found
      simp only [Evaluate.program]
      split at found
      · rename_i named
        obtain ⟨start, bindings, trail, same⟩ := result_narrowed named mode
          (Evaluate.program given inner) state
        rw [same]
        rw [← bindings, ← trail] at found
        exact program_listing inner builds _ found
      · cases found
  | subquerySink id keys inner =>
      simp only [Program.listing?] at found
      cases read : Reading.nodes? given ⟨id, keys, value⟩ with
      | none => simp [read] at found
      | some nodes =>
          simp only [read] at found
          rcases result_nodesOf read state with
            ⟨pages, same⟩ | ⟨error, breach, failed⟩
          · simp only [Evaluate.program, result_bind, same, result_within]
            exact program_listing inner builds
              { state with pages, trail := .key keys.nodes :: state.trail }
                found
          · exact Or.inr ⟨error, breach, result_bind_error failed⟩
  | bind depth inner =>
      simp only [Program.listing?] at found
      simp only [Evaluate.program, result_binding]
      rw [← EvaluationState.binding?_rebind] at found
      exact program_listing inner builds _ found
  | parameter depth inner =>
      simp only [Program.listing?] at found
      simp only [Evaluate.program, result_bind, result_get]
      cases known : state.binding? depth with
      | none => simp [known] at found
      | some element =>
          simp only [known] at found ⊢
          exact program_listing inner builds _ found
  | readScalar key type => cases builds
  | mapList filters inner => cases builds
  | buildRecord fields => cases builds
  | enforceSingle inner => cases builds
  | keyValue key inner => cases builds
termination_by structural program

/-! ### The way to an entry -/

/-- A filter gives nothing for what is null, and for an object of another
type. -/
theorem result_narrowed_skipped {typeName : String}
    (absence :
      value.isNull = true ∨
        ∃ name, value.typename? = some name ∧ name ≠ typeName)
    (evaluate : Json → Evaluate Json) (state : EvaluationState) :
    ((narrowed typeName .filter evaluate value).result state).1 =
      .ok .null := by
  have skipped : (narrowed typeName .filter evaluate value).Runs state .null
      state.markAbsent :=
    runs_narrowed_filter.mpr (Or.inr ⟨absence, rfl, rfl⟩)
  exact congrArg Prod.fst skipped

/-- What is known of the outcome for an element that arrives somewhere. -/
def Explains (given : Option AllNodes) (key member : Program) :
    Program.Arrival → Except ExtractionError Json → Prop
  | .skipped, outcome => outcome = .ok .null
  | .lost, outcome => ∃ error, outcome = .error error
  | .arrived bindings element, outcome =>
      ∃ trail,
        ComesTo given (.keyValue key member) bindings trail element outcome

/-- What never comes to a value fails. -/
theorem fails_of_runs {α : Type} {action : Evaluate α}
    (never : ∀ before value after, ¬ action.Runs before value after) :
    Fails action := by
  intro state
  cases outcome : action.result state with
  | mk result later =>
      cases result with
      | error error => exact ⟨error, later, rfl⟩
      | ok value => exact absurd outcome (never state value later)

theorem Fails.outcome {α : Type} {action : Evaluate α} (fails : Fails action)
    (state : EvaluationState) :
    ∃ error, (action.result state).1 = .error error := by
  obtain ⟨error, later, same⟩ := fails state
  exact ⟨error, congrArg Prod.fst same⟩

/-- The outcome for an element is the one at the program of its key and its
value, if the element arrives there. -/
theorem program_arrival (program : Program) {key member : Program}
    (builds : program.pair? = some (key, member)) (state : EvaluationState)
    (value : Json) :
    Explains given key member (program.arrival state.binding? value)
      ((Evaluate.program given program value).result state).1 := by
  cases program with
  | keyValue ownKey ownMember =>
      obtain ⟨rfl, rfl⟩ := Prod.mk.inj (Option.some.inj builds)
      exact ⟨state.trail, state, rfl, rfl, rfl⟩
  | field name inner =>
      simp only [Program.arrival, Evaluate.program]
      cases present : value.member? name with
      | none => exact ((fails_memberOf present).bind _).outcome state
      | some below =>
          simp only [result_bind, result_memberOf present, result_within]
          exact program_arrival inner builds
            { state with trail := .key name :: state.trail } below
  | optional inner =>
      simp only [Program.arrival, Evaluate.program]
      cases absence : value.isNull with
      | true => rfl
      | false =>
          simp only [Bool.false_eq_true, if_false]
          exact program_arrival inner builds state value
  | narrow typeName mode inner =>
      simp only [Evaluate.program]
      by_cases named : value.typename? = some typeName
      · obtain ⟨start, bindings, _, same⟩ := result_narrowed named mode
          (Evaluate.program given inner) state
        have arrives := program_arrival inner builds start value
        rw [same]
        cases mode with
        | filter =>
            simpa [Program.arrival, named, Json.present_of_typename? named,
              ← bindings] using arrives
        | cast => simpa [Program.arrival, named, ← bindings] using arrives
      · cases mode with
        | filter =>
            cases absence : value.isNull with
            | true =>
                simp only [Program.arrival, absence, if_true]
                exact result_narrowed_skipped (Or.inl absence) _ state
            | false =>
                cases other : value.typename? with
                | none =>
                    simp only [Program.arrival, absence, other,
                      Bool.false_eq_true, if_false]
                    apply (fails_of_runs
                      fun before output after run => ?_).outcome state
                    rcases runs_narrowed_filter.mp run with
                      ⟨same, _⟩ | ⟨missing, _⟩
                    · exact named same
                    · simp [absence, other] at missing
                | some name =>
                    have different : name ≠ typeName :=
                      fun same => named (same ▸ other)
                    simp only [Program.arrival, absence, other, different,
                      Bool.false_eq_true, if_false]
                    exact result_narrowed_skipped
                      (Or.inr ⟨name, other, different⟩) _ state
        | cast =>
            simp only [Program.arrival, named, if_false]
            exact (fails_of_runs fun before output after run =>
              named (runs_narrowed_cast.mp run).1).outcome state
  | bind depth inner =>
      simp only [Program.arrival, Evaluate.program, result_binding]
      rw [← EvaluationState.binding?_rebind]
      exact program_arrival inner builds (state.rebind depth (some value)) value
  | parameter depth inner =>
      simp only [Program.arrival, Evaluate.program, result_bind, result_get]
      cases state.binding? depth with
      | none => exact ⟨_, rfl⟩
      | some element => exact program_arrival inner builds state element
  | readScalar name type => cases builds
  | mapList filters inner => cases builds
  | buildRecord fields => cases builds
  | enforceSingle inner => cases builds
  | toDictionary entry => cases builds
  | subquerySink id keys inner => cases builds
termination_by structural program

/-- An entry has the outputs of the programs of its key and its value. -/
theorem program_keyValue {key member : Program} {bindings : Nat → Option Json}
    {state : EvaluationState} {element output : Json}
    (bound : state.binding? = bindings)
    (success :
      ((Evaluate.program given (.keyValue key member) element).result state).1 =
        .ok output) :
    ∃ text value,
      output = .array [text, value] ∧ key.Gives given bindings element text ∧
      member.Gives given bindings element value := by
  have run :
      (Evaluate.program given (.keyValue key member) element).Runs state output
        _ := Prod.ext success rfl
  simp only [Evaluate.program, runs_bind, runs_pure] at run
  obtain ⟨text, middle, keyed, value, last, valued, rfl, _⟩ := run
  have restored := ((program_calm given key element).spares keyed).bindings
  exact ⟨text, value, rfl, ⟨state, middle, keyed, bound⟩,
    ⟨middle, last, valued, restored.trans bound⟩⟩

/-- Where its key and its value are given, there is an entry, unless a
connection holds no page. -/
theorem program_keyValue_of_gives {key member : Program}
    {bindings : Nat → Option Json} {state : EvaluationState}
    {element text value : Json} (bound : state.binding? = bindings)
    (keyed : key.Gives given bindings element text)
    (valued : member.Gives given bindings element value) :
    ((Evaluate.program given (.keyValue key member) element).result state).1 =
        .ok (.array [text, value]) ∨
      ∃ error, error.isRejection = false ∧
        ((Evaluate.program given (.keyValue key member) element).result
          state).1 =
          .error error := by
  rw [Evaluate.program]
  rcases keyed.runs bound with ⟨middle, run⟩ | ⟨error, breach, failed⟩
  · have restored := ((program_calm given key element).spares run).bindings
    rw [result_bind_of_runs run]
    rcases valued.runs (restored.trans bound) with
      ⟨last, run⟩ | ⟨error, breach, failed⟩
    · rw [result_bind_of_runs run]
      exact Or.inl rfl
    · exact Or.inr ⟨error, breach, result_bind_error failed⟩
  · exact Or.inr ⟨error, breach, result_bind_error failed⟩

/-- Only an element that is skipped on the way comes to nothing. -/
theorem Explains.skipped_of_null {key member : Program}
    {arrival : Program.Arrival}
    (explains : Explains given key member arrival (.ok .null)) :
    arrival = .skipped := by
  cases arrival with
  | skipped => rfl
  | lost =>
      obtain ⟨error, failed⟩ := explains
      cases failed
  | arrived inside element =>
      obtain ⟨trail, start, bound, _, success⟩ := explains
      obtain ⟨text, value, null, _⟩ := program_keyValue bound success.symm
      cases null

/-- An element that comes to a pair arrives where the key and the value are
given. -/
theorem Explains.arrived_of_pair {key member : Program}
    {arrival : Program.Arrival}
    {text value : Json} (explains : Explains given key member arrival
      (.ok (.array [text, value]))) :
    ∃ inside element, arrival = .arrived inside element ∧
      key.Gives given inside element text ∧
        member.Gives given inside element value := by
  cases arrival with
  | skipped => cases explains
  | lost =>
      obtain ⟨error, failed⟩ := explains
      cases failed
  | arrived inside element =>
      obtain ⟨trail, start, bound, _, success⟩ := explains
      obtain ⟨ownText, ownValue, same, keyed, valued⟩ :=
        program_keyValue bound success.symm
      simp only [Json.array.injEq, List.cons.injEq, and_true] at same
      obtain ⟨rfl, rfl⟩ := same
      exact ⟨inside, element, rfl, keyed, valued⟩

section Verdicts

variable {entry key member : Program} {bindings : Nat → Option Json}
  {item : Json} {state : EvaluationState} {verdict : Verdict}

/-- What an element comes to decides the verdict on it. -/
theorem decides_of_outcome (builds : entry.pair? = some (key, member))
    (bound : state.binding? = bindings)
    (same :
      ((Evaluate.program given entry item).result state).1 = verdict.outcome) :
    entry.Decides given bindings state.trail item verdict := by
  have explains : Explains given key member (entry.arrival state.binding? item)
      ((Evaluate.program given entry item).result state).1 :=
    program_arrival entry builds state item
  rw [bound, same] at explains
  cases verdict with
  | failed error => exact .failed bound rfl same
  | skipped => exact .skipped explains.skipped_of_null
  | pair text value =>
      obtain ⟨inside, element, arrived, keyed, valued⟩ :=
        explains.arrived_of_pair
      exact .pair builds arrived keyed valued

/-- An element whose evaluation fails with rejections only comes to the verdict
on it. -/
theorem outcome_of_decides (builds : entry.pair? = some (key, member))
    {recorded : Pages → Prop} {post : Json → Prop}
    (settles :
      Settles bindings recorded Rejected post
        (Evaluate.program given entry item))
    (bound : state.binding? = bindings)
    (decides : entry.Decides given bindings state.trail item verdict) :
    ((Evaluate.program given entry item).result state).1 = verdict.outcome := by
  have explains : Explains given key member (entry.arrival state.binding? item)
      ((Evaluate.program given entry item).result state).1 :=
    program_arrival entry builds state item
  rw [bound] at explains
  cases decides with
  | skipped skipped =>
      rw [skipped] at explains
      exact explains
  | @pair key member inside element text value sameBuilds arrived keyed
      valued =>
      obtain ⟨rfl, rfl⟩ :=
        Prod.mk.inj (Option.some.inj (builds.symm.trans sameBuilds))
      rw [arrived] at explains
      obtain ⟨trail, start, boundInside, _, same⟩ := explains
      rw [same]
      rcases program_keyValue_of_gives boundInside keyed valued with
        entered | ⟨error, breach, failed⟩
      · exact entered
      · have rejected := settles.error bound (same.trans failed)
        rw [Rejected, breach] at rejected
        cases rejected
  | @failed other error sameBindings sameTrail failed =>
      -- The error may have been met in another state, which is alike in what
      -- counts.
      have alike := AlikeIn.of_bindings (bound.trans sameBindings.symm)
        fun _ : True => sameTrail.symm
      have agrees :=
        program_steady given entry item (fun _ _ => trivial) state other alike
      rw [agrees.outcome_eq trivial (fun _ => settles.error bound)
        (fun _ => settles.error sameBindings)]
      exact failed

/-- The verdict on an element is the outcome of its evaluation, which fails with
rejections only. -/
theorem decides_iff (builds : entry.pair? = some (key, member))
    {recorded : Pages → Prop} {post : Json → Prop}
    (settles :
      Settles bindings recorded Rejected post
        (Evaluate.program given entry item))
    (bound : state.binding? = bindings) :
    entry.Decides given bindings state.trail item verdict ↔
      ((Evaluate.program given entry item).result state).1 = verdict.outcome :=
  ⟨outcome_of_decides builds settles bound, decides_of_outcome builds bound⟩

end Verdicts

/-! ### Fitting programs -/

theorem entries?_guarded (type : TypeRef) (inner : Program) :
    (inner.guarded type).entries? = inner.entries? := by
  unfold Program.guarded
  split <;> rfl

/-- No list is found where the value is absent. -/
theorem listing?_guarded {type : TypeRef} {inner : Program}
    {bindings : Nat → Option Json} {trail : List PathSegment}
    {listing : Program.Listing}
    (nullable : value = .null → type.isNullable = true)
    (found :
      (inner.guarded type).listing? given bindings trail value = some listing) :
    value.isNull = false ∧
      inner.listing? given bindings trail value = some listing := by
  unfold Program.guarded at found
  split at found
  · simp only [Program.listing?] at found
    split at found
    · cases found
    · rename_i present
      exact ⟨by simpa using present, found⟩
  · rename_i required
    exact ⟨Json.isNull_eq_false fun isNull => required (nullable isNull), found⟩

/-- The entries of the list of a fitting program settle at the list, and
elements that are null are skipped. -/
theorem fits_listing {named : String → Prop} {document : CompileState}
    {isOpen : List String → Prop} (formed : document.WellFormed named)
    (conform : AllNodes.Conform document given) {places : Places}
    {extent : Extent} {program : Program}
    (fits : Fits document isOpen places extent program) :
    ∀ {bindings trail value entry listing}, program.entries? = some entry →
      Bindings document places bindings → extent.Admits document value →
        program.listing? given bindings trail value = some listing →
          (∀ item ∈ listing.items,
            Settles listing.bindings (fun _ => True) Rejected
            Json.IsEntry (Evaluate.program given entry item)) ∧
          (.null ∈ listing.items →
            entry.arrival listing.bindings .null = .skipped) := by
  induction fits with
  | readScalar member leaf readable =>
      intro bindings trail value entry listing builds
      cases builds
  | @field places place record set inner member child readable _ induction =>
      intro bindings trail value entry listing builds bound admits found
      obtain ⟨members, rfl, _, fields, _⟩ :=
        Selections.admits_typed formed.selections admits
      obtain ⟨below, present, typed⟩ :=
        Selections.admits_below child (fields _ member)
      rw [Program.entries?, entries?_guarded] at builds
      simp only [Program.listing?, Json.member?, Json.members?,
        Option.bind_some, present] at found
      obtain ⟨notNull, found⟩ := listing?_guarded typed.notNull found
      rcases typed.extent (place.below record.key set) with
        ⟨rfl, _⟩ | ⟨_, inside⟩
      · cases notNull
      · exact induction builds bound inside found
  | mapList single _ induction =>
      intro bindings trail value entry listing builds
      cases builds
  | @toDictionary places place element own single shape fits induction =>
      intro bindings trail value entry listing builds bound admits found
      obtain ⟨items, rfl, each⟩ := admits
      obtain rfl := Option.some.inj builds
      obtain rfl := Option.some.inj found
      constructor
      · intro item member
        refine guarded_settles (Or.inl rfl) (each item member).notNull
          fun present => ?_
        exact (fits_settles formed conform fits bound
          ((each item member).single single present)).weaken fun _ entryShape =>
            entryShape shape
      · intro absence
        have nullable := (each _ absence).notNull rfl
        simp [Program.guarded, nullable, Program.arrival, Json.isNull]
  | @narrow places place typeName mode set inner fragment required readable _
      induction =>
      intro bindings trail value entry listing builds bound admits found
      obtain ⟨members, rfl, _, _, fragments⟩ :=
        Selections.admits_typed formed.selections admits
      simp only [Program.listing?] at found
      split at found
      · rename_i sameType
        exact induction builds bound
          (fragments _ (Entries.mem_of_lookup? fragment)
            (Json.lookup?_typename sameType)) found
      · cases found
  | buildRecord _ induction =>
      intro bindings trail value entry listing builds
      cases builds
  | enforceSingle _ induction =>
      intro bindings trail value entry listing builds
      cases builds
  | keyValue _ _ keyInduction valueInduction =>
      intro bindings trail value entry listing builds
      cases builds
  | @subquerySink places place id subquery pageInfo hasNextPage endCursor nodes
      info set element inner found path once cursor reached infoMember infoType
      infoChild nextMember nextType lastMember lastType nodesMember nodesChild
      elementType keys _ induction =>
      intro bindings trail value entry listing builds bound admits listed
      obtain ⟨members, rfl, _, fields, _⟩ :=
        Selections.admits_typed formed.selections admits
      obtain ⟨nodesValue, nodesFound, nodesTyped⟩ :=
        Selections.admits_below nodesChild (fields _ nodesMember)
      simp only [Program.listing?] at listed
      cases read :
          Reading.nodes? given ⟨id, subquery.keys, .object members⟩ with
      | none => simp [read] at listed
      | some standing =>
          simp only [read] at listed
          refine induction builds bound ?_ listed
          unfold Reading.nodes? at read
          cases replaced : given.bind (·.lookup? id) with
          | some replacing =>
              simp only [replaced, Option.some.injEq] at read
              subst standing
              refine Wrapping.Admits.items ?_ elementType rfl
              exact conform replaced found (path ▸ reached) nodesMember
                (by rw [keys]) nodesChild
          | none =>
              simp only [replaced, keys, Json.member?, Json.members?,
                Option.bind_some, nodesFound, Option.map_some,
                Option.some.injEq] at read
              subst standing
              split
              · exact ⟨[], rfl, by simp⟩
              · rename_i present
                exact Wrapping.Admits.items nodesTyped elementType
                  (by simpa using present)
  | bind _ induction =>
      intro bindings trail value entry listing builds bound admits found
      exact induction builds (bound.update admits _) admits found
  | @parameter places place extent depth inner known _ induction =>
      intro bindings trail value entry listing builds bound admits found
      obtain ⟨element, elementBound, conforms⟩ := bound depth place known
      simp only [Program.listing?, elementBound] at found
      exact induction builds bound conforms found

/-! ### The dictionary -/

/-- There is one verdict on each element. -/
theorem exists_verdict {entry key member : Program}
    (builds : entry.pair? = some (key, member))
    {bindings : Nat → Option Json} {recorded : Pages → Prop} {item : Json}
    (settles : Settles bindings recorded Rejected Json.IsEntry
      (Evaluate.program given entry item))
    {state : EvaluationState} (bound : state.binding? = bindings) :
    ∃ verdict,
      (∀ other,
        entry.Decides given bindings state.trail item other ↔ other = verdict) ∧
      Judges (Evaluate.program given entry) bindings state.trail item
        verdict := by
  have judged : ∃ verdict : Verdict,
      ((Evaluate.program given entry item).result state).1 =
        verdict.outcome := by
    cases result : ((Evaluate.program given entry item).result state).1 with
    | error error => exact ⟨.failed error, rfl⟩
    | ok output =>
        rcases settles.value bound result with rfl | ⟨text, value, rfl⟩
        · exact ⟨.skipped, rfl⟩
        · exact ⟨.pair text value, rfl⟩
  obtain ⟨verdict, same⟩ := judged
  refine ⟨verdict, fun other => ?_, fun another boundThere sameTrail => ?_⟩
  · rw [decides_iff builds settles bound, same]
    exact Verdict.outcome_injective.eq_iff.trans eq_comm
  · have decides := (decides_iff builds settles bound).mpr same
    rw [← sameTrail, decides_iff builds settles boundThere] at decides
    exact decides

/-- A program that comes to a list comes to what is collected from the verdicts
on its elements. -/
theorem program_collects {program entry key member : Program}
    (builds : program.entries? = some entry)
    (pairs : entry.pair? = some (key, member))
    {state : EvaluationState} {listing : Program.Listing}
    (found :
      program.listing? given state.binding? state.trail value = some listing)
    (settles :
      ∀ item ∈ listing.items, Settles listing.bindings (fun _ => True) Rejected
        Json.IsEntry (Evaluate.program given entry item))
    (rejects :
      ∀ error, ((Evaluate.program given program value).result state).1 =
        .error error → error.isRejection = true) :
    ∃ verdicts outcome,
      List.Forall₂ (fun indexed verdict => ∀ other,
          entry.Decides given listing.bindings
            (.index indexed.2 :: listing.trail) indexed.1
            other ↔ other = verdict)
        listing.items.zipIdx verdicts ∧
      Verdict.Collects listing.trail.reverse verdicts outcome ∧
      ((Evaluate.program given program value).result state).1 =
        outcome.map Json.object := by
  rcases program_listing program builds state found with
    ⟨start, bound, place, same⟩ | ⟨error, breach, failed⟩
  · have each : ∀ indexed ∈ listing.items.zipIdx, ∃ verdict,
        (∀ other,
          entry.Decides given listing.bindings
              (.index indexed.2 :: listing.trail) indexed.1 other ↔
            other = verdict) ∧
        Judges (Evaluate.program given entry) listing.bindings
          (.index indexed.2 :: listing.trail) indexed.1 verdict := by
      intro indexed member
      have settled := settles indexed.1 (List.fst_mem_of_mem_zipIdx member)
      have boundInside :
          ({ start with trail := .index indexed.2 :: listing.trail } :
            EvaluationState).binding? = listing.bindings := bound
      exact exists_verdict pairs settled boundInside
    choose! verdict decided judges using each
    have collects :
        Verdict.Collects listing.trail.reverse
          (listing.items.zipIdx.map verdict)
          ((addEntries (Evaluate.program given entry) listing.items 0 []).result
            start).1 :=
      addEntries_collects settles (fun _ _ => rfl) (fun _ _ => rfl)
        Verdict.allEnter_nil
        (List.forall₂_map_right_iff.mpr (List.forall₂_same.mpr judges)) bound
        place
    refine ⟨listing.items.zipIdx.map verdict, _,
      List.forall₂_map_right_iff.mpr (List.forall₂_same.mpr decided), collects,
      ?_⟩
    have listed :
        (itemsOf (.array listing.items)).Runs start listing.items start :=
      runs_itemsOf.mpr ⟨rfl, rfl⟩
    rw [same, Evaluate.program, result_bind_of_runs listed, result_bind]
    cases (addEntries (Evaluate.program given entry) listing.items 0 []).result
      start with
    | mk result later => cases result <;> rfl
  · rw [rejects error failed] at breach
    cases breach

end Evaluate

end GraphPipeline
