import GraphPipeline.Proofs.Evaluation.Triples
import GraphPipeline.Proofs.Execution.Replay

/-!
# Recording the pages that are read

A first evaluation that succeeds has recorded a page for every connection it
comes to. A program in which no pages are followed inside of others comes to the
same connections whatever nodes it is given.
-/

namespace GraphPipeline

namespace Evaluate

/-- A page of the connection with a number is recorded. -/
def Recorded (id : SubqueryId) (pages : Pages) : Prop :=
  (pages.lookup? id).isSome = true

theorem Recorded.append {id : SubqueryId} {pages : Pages}
    (recorded : Recorded id pages) (other : SubqueryId) (page : Page) :
    Recorded id (pages ++ [(other, page)]) := by
  unfold Recorded at recorded ⊢
  rw [Pages.isSome_lookup?_append, recorded, Bool.true_or]

/-- After an action that succeeds, a page of a connection is recorded. -/
def Records {α : Type} (bindings : Nat → Option Json) (id : SubqueryId)
    (action : Evaluate α) : Prop :=
  Triple (fun state => state.binding? = bindings)
    (fun _ state => state.binding? = bindings ∧ Recorded id state.pages)
      (fun _ => True)
    action

/-- An action that keeps the record of a connection. -/
abbrev Keeps {α : Type} (bindings : Nat → Option Json) (id : SubqueryId)
    (post : α → Prop) (action : Evaluate α) : Prop :=
  Settles bindings (Recorded id) Bound post action

section rules

variable {α β : Type} {bindings : Nat → Option Json} {id : SubqueryId}
  {post : α → Prop}

theorem Records.bind {action : Evaluate α} {next : α → Evaluate β}
    (records : Records bindings id action)
    (keeps : ∀ value, Keeps bindings id (fun _ => True) (next value)) :
    Records bindings id (action >>= next) := by
  apply Triple.bind records
  intro value
  constructor
  · intro state later result start run
    have final : later = ((next value).result state).2 := by rw [run]
    subst later
    exact ⟨(keeps value).restored start.1, (keeps value).pages start.1 start.2⟩
  · intro state later error start run
    trivial

theorem Keeps.bind {action : Evaluate α} {next : α → Evaluate β}
    (keeps : Keeps bindings id post action)
    (records : ∀ value, post value → Records bindings id (next value)) :
    Records bindings id (action >>= next) := by
  have first : Triple (fun state => state.binding? = bindings)
      (fun value state => state.binding? = bindings ∧ post value)
        (fun _ => True) action := by
    constructor
    · intro state later value start run
      have final : later = (action.result state).2 := by rw [run]
      subst later
      exact ⟨keeps.restored start, keeps.value start (by rw [run])⟩
    · intro state later error start run
      trivial
  apply Triple.bind first
  intro value
  exact Triple.assuming (records value)

theorem within_records {segment : PathSegment} {action : Evaluate α}
    (inside : Records bindings id action) :
    Records bindings id (within segment action) :=
  triple_between inside (fun _ start => start) fun _ _ ending => ending

theorem isolated_records {action : Evaluate α}
    (inside : Records bindings id action) :
    Records bindings id (isolated action) := by
  apply Triple.of_each
  intro state start
  apply triple_isolated (inside.imp _ fun _ _ ending => ending)
  · exact fun _ _ ending => ending
  · rintro _ rfl
    exact start

theorem binding_records {depth : Nat} {value : Json} {action : Evaluate α}
    (inside : Records (Function.update bindings depth (some value)) id action) :
    Records bindings id (binding depth value action) := by
  apply Triple.of_each
  rintro state rfl
  apply triple_binding (inside.imp _ fun _ _ ending => ending)
  · rintro result last ⟨same, recorded⟩
    refine ⟨?_, recorded⟩
    rw [EvaluationState.binding?_rebind, same, Function.update_idem,
      Function.update_eq_self]
  · rintro _ rfl
    exact EvaluationState.binding?_rebind _ _ _

theorem modify_records {change : EvaluationState → EvaluationState}
    {next : PUnit → Evaluate β}
    (same : ∀ state, (change state).bindings = state.bindings)
    (records : ∀ value, Records bindings id (next value)) :
    Records bindings id (modify change >>= next) := by
  have changing : Triple (fun state => state.binding? = bindings)
      (fun _ state => state.binding? = bindings) (fun _ => True)
        (modify change) := by
    apply triple_modify
    rintro state rfl
    funext depth
    simp only [EvaluationState.binding?, same]
  exact Triple.bind changing records

theorem mapItems_records {filters : Nat} {evaluate : Json → Evaluate Json}
    {items : List Json} {item : Json} (member : item ∈ items)
    (records : Records bindings id (evaluate item))
    (keeps : ∀ item ∈ items, Keeps bindings id (fun _ => True) (evaluate item))
    (index : Nat) :
    Records bindings id (mapItems filters evaluate items index) := by
  induction items generalizing index with
  | nil => cases member
  | cons first items induction =>
      have others :
          ∀ item ∈ items, Keeps bindings id (fun _ => True) (evaluate item) :=
        fun item member => keeps item (List.mem_cons_of_mem _ member)
      unfold mapItems
      refine modify_records (fun _ => rfl) ?_
      intro _
      rcases List.mem_cons.mp member with rfl | later
      · apply (within_records records).bind
        intro output
        apply settles_get.bind
        intro state _
        apply (mapItems_settles others _).bind
        intro outputs _
        exact settles_pure trivial
      · apply Keeps.bind (settles_within (keeps first List.mem_cons_self))
        intro output _
        apply Keeps.bind settles_get
        intro state _
        apply (induction later others _).bind
        intro outputs
        exact settles_pure trivial

theorem addEntries_records {evaluate : Json → Evaluate Json} {items : List Json}
    {item : Json} (member : item ∈ items)
    (records : Records bindings id (evaluate item))
    (keeps : ∀ item ∈ items, Keeps bindings id (fun _ => True) (evaluate item))
    (index : Nat) (dictionary : Entries Json) :
    Records bindings id (addEntries evaluate items index dictionary) := by
  induction items generalizing index dictionary with
  | nil => cases member
  | cons first items induction =>
      have others :
          ∀ item ∈ items, Keeps bindings id (fun _ => True) (evaluate item) :=
        fun item member => keeps item (List.mem_cons_of_mem _ member)
      unfold addEntries
      rcases List.mem_cons.mp member with rfl | later
      · apply (within_records (records.bind fun entry =>
          insertEntry_bound dictionary entry)).bind
        intro extended
        exact addEntries_settles others
          (fun dictionary entry _ => insertEntry_bound dictionary entry) _ _
      · apply Keeps.bind
          (settles_within
            (Settles.bind (keeps first List.mem_cons_self)
              fun entry _ => insertEntry_bound dictionary entry))
        intro extended _
        exact induction later others _ _

theorem required_records {action : Evaluate Json}
    (records : Records bindings id action) :
    Records bindings id (required action) := by
  unfold required
  refine modify_records (fun _ => rfl) ?_
  intro _
  apply records.bind
  intro result
  split
  · apply settles_get.bind
    intro state _
    have failed : Keeps bindings id (fun _ => True)
        (throw (.absent (state.absentAt.getD state.trail).reverse) :
          Evaluate PUnit) := by
      apply settles_throw
      intro _ _ same
      cases same
    exact Settles.bind failed fun _ _ => settles_pure trivial
  · exact settles_pure trivial

theorem narrowed_records {typeName : String} {mode : NarrowingMode}
    {evaluate : Json → Evaluate Json} {value : Json}
    (named : value.typename? = some typeName)
    (records : Records bindings id (evaluate value)) :
    Records bindings id (narrowed typeName mode evaluate value) := by
  have present : value.isNull = false := by
    cases value with
    | null => cases named
    | bool value => rfl
    | number value => rfl
    | string value => rfl
    | array items => rfl
    | object members => rfl
  have known : typenameOf value = pure typeName := by
    unfold typenameOf
    rw [show (value.member? typenameKey).bind Json.text? =
        some typeName from named]
  cases mode with
  | filter =>
      rw [narrowed_filter present, known, pure_bind, if_pos rfl]
      exact modify_records (fun _ => rfl) fun _ => records
  | cast =>
      rw [narrowed_cast present, known, pure_bind, if_pos rfl]
      exact records

/-- Coming to a connection records a page of it. -/
theorem nodesOf_records (keys : PageKeys) (connection : Json) :
    Records bindings id (nodesOf none id keys connection) := by
  have recording : Records bindings id (recordPage id keys connection) := by
    unfold recordPage
    apply Triple.bind triple_get
    intro state
    apply Triple.of_each
    rintro last ⟨rfl, start⟩
    cases known : state.pages.lookup? id with
    | some page =>
        apply triple_pure
        rintro _ rfl
        refine ⟨start, ?_⟩
        unfold Recorded
        rw [known]
        rfl
    | none =>
        have reading :
            Triple (· = state) (fun _ last => last = state) (fun _ => True)
              (atPath (Page.read connection keys)) :=
          triple_atPath (fun _ _ same _ => same) fun _ _ _ _ => trivial
        apply Triple.bind reading
        intro page
        apply triple_modify
        rintro _ rfl
        refine ⟨start, ?_⟩
        unfold Recorded
        rw [Pages.isSome_lookup?_append]
        simp
  unfold nodesOf
  apply Keeps.bind (memberOf_bound connection keys.nodes)
  intro nodes _
  apply recording.bind
  exact fun _ => settles_pure trivial

end rules

theorem program_keeps {bindings : Nat → Option Json} {program : Program}
    (bound : program.IsBound bindings) (id : SubqueryId) (value : Json) :
    Keeps bindings id (fun _ => True)
      (Evaluate.program none program value) := by
  apply program_settles none program bindings bound value
  intro reading reads path page pages read recorded
  exact recorded.append reading.id page

theorem fieldPrograms_records {bindings : Nat → Option Json} {id : SubqueryId}
    {fields : List (String × Program)} {field : String × Program} {value : Json}
    (member : field ∈ fields)
    (records : Records bindings id (program none field.2 value))
    (keeps : ∀ field ∈ fields, Keeps bindings id (fun _ => True)
      (program none field.2 value)) :
    Records bindings id (fieldPrograms none fields value) := by
  induction fields with
  | nil => cases member
  | cons first fields induction =>
      have others : ∀ field ∈ fields, Keeps bindings id (fun _ => True)
          (program none field.2 value) :=
        fun field member => keeps field (List.mem_cons_of_mem _ member)
      unfold fieldPrograms
      rcases List.mem_cons.mp member with rfl | later
      · apply records.bind
        intro output
        apply (fieldPrograms_settles others).bind
        intro outputs _
        exact settles_pure trivial
      · apply Keeps.bind (keeps first List.mem_cons_self)
        intro output _
        apply (induction later others).bind
        intro outputs
        exact settles_pure trivial

/-- An evaluation that succeeds has recorded a page of every connection it comes
to. -/
theorem reads_records {reading : Reading} {bindings : Nat → Option Json}
    {program : Program} {value : Json}
    (reads : program.Reads none reading bindings value)
    (bound : program.IsBound bindings) :
    Records bindings reading.id (Evaluate.program none program value) := by
  induction reads with
  | @field bindings key inner value member found _ induction =>
      unfold Evaluate.program
      apply Keeps.bind (memberOf_bound value key)
      intro other foundOther
      obtain rfl : other = member :=
        Option.some.inj (foundOther.symm.trans found)
      exact within_records (induction bound)
  | optional present _ induction =>
      unfold Evaluate.program
      rw [present]
      exact induction bound
  | @item bindings filters inner items item member _ induction =>
      have boundInner : inner.IsBound bindings := bound
      unfold Evaluate.program
      apply Keeps.bind (itemsOf_bound (.array items))
      intro others same
      obtain rfl := Json.array.inj same
      apply (isolated_records (mapItems_records member (induction bound)
        (fun other _ => program_keeps boundInner reading.id other) 0)).bind
      exact fun _ => settles_pure trivial
  | narrow named _ induction =>
      unfold Evaluate.program
      exact narrowed_records named (induction bound)
  | @member bindings fields field value member _ induction =>
      unfold Evaluate.program
      apply (fieldPrograms_records member (induction (bound.member member))
        fun field member =>
          program_keeps (bound.member member) reading.id value).bind
      exact fun _ => settles_pure trivial
  | enforceSingle _ induction =>
      unfold Evaluate.program
      exact required_records (induction bound)
  | @entry bindings inner items item member _ induction =>
      have boundInner : inner.IsBound bindings := bound
      unfold Evaluate.program
      apply Keeps.bind (itemsOf_bound (.array items))
      intro others same
      obtain rfl := Json.array.inj same
      apply (addEntries_records member (induction bound)
        (fun other _ => program_keeps boundInner reading.id other) 0 []).bind
      exact fun _ => settles_pure trivial
  | @key bindings key inner value _ induction =>
      unfold Evaluate.program
      apply (induction bound.key).bind
      intro output
      apply Settles.bind (program_keeps bound.value reading.id value)
      intro _ _
      exact settles_pure trivial
  | @value bindings key inner value _ induction =>
      unfold Evaluate.program
      apply Keeps.bind (program_keeps bound.key reading.id value)
      intro output _
      apply (induction bound.value).bind
      intro _
      exact settles_pure trivial
  | @here bindings inner =>
      have boundInner : inner.IsBound bindings := bound
      unfold Evaluate.program
      apply (nodesOf_records reading.keys reading.connection).bind
      intro nodes
      exact settles_within (program_keeps boundInner reading.id nodes)
  | @nodes bindings id keys inner value nodes known _ induction =>
      unfold Evaluate.program
      have keepsNodes : Keeps bindings reading.id
          (fun others => Reading.nodes? none ⟨id, keys, value⟩ = some others)
          (nodesOf none id keys value) := by
        apply nodesOf_bound
        intro path page pages read recorded
        exact recorded.append id page
      apply keepsNodes.bind
      intro others same
      obtain rfl : others = nodes := Option.some.inj (same.symm.trans known)
      exact within_records (induction bound)
  | @bind bindings depth inner value _ induction =>
      unfold Evaluate.program
      exact binding_records (induction (bound.bind value))
  | @parameter bindings depth inner value element known _ induction =>
      unfold Evaluate.program
      apply Keeps.bind settles_get
      intro state same
      rw [same, known]
      exact induction bound.parameter

end Evaluate

/-! ### Flat programs -/

namespace Program.Reads

variable {given other : Option AllNodes} {reading : Reading}
  {bindings : Nat → Option Json} {program : Program} {value : Json}

theorem sinkFree_eq_false (reads : program.Reads given reading bindings value) :
    program.sinkFree = false := by
  induction reads with
  | field _ _ induction => exact induction
  | optional _ _ induction => exact induction
  | item _ _ induction => exact induction
  | narrow _ _ induction => exact induction
  | member member _ induction =>
      apply Bool.eq_false_of_not_eq_true
      intro free
      rw [sinkFreeFields_iff.mp free _ member] at induction
      cases induction
  | enforceSingle _ induction => exact induction
  | entry _ _ induction => exact induction
  | key _ induction => rw [sinkFree, induction, Bool.false_and]
  | value _ induction => rw [sinkFree, induction, Bool.and_false]
  | here => rfl
  | nodes _ _ _ => rfl
  | bind _ induction => exact induction
  | parameter _ _ induction => exact induction

/-- A flat program comes to the same connections whatever nodes it is given. -/
theorem of_isFlat (reads : program.Reads given reading bindings value) :
    program.isFlat = true → program.Reads other reading bindings value := by
  induction reads with
  | field found _ induction => exact fun flat => .field found (induction flat)
  | optional present _ induction =>
    exact fun flat => .optional present (induction flat)
  | item member _ induction => exact fun flat => .item member (induction flat)
  | narrow named _ induction => exact fun flat => .narrow named (induction flat)
  | member member _ induction =>
      exact fun flat =>
        .member member (induction (isFlatFields_iff.mp flat _ member))
  | enforceSingle _ induction =>
    exact fun flat => .enforceSingle (induction flat)
  | entry member _ induction => exact fun flat => .entry member (induction flat)
  | key _ induction =>
      exact fun flat => .key (induction (Bool.and_eq_true_iff.mp flat).1)
  | value _ induction =>
      exact fun flat => .value (induction (Bool.and_eq_true_iff.mp flat).2)
  | here => exact fun _ => .here
  | nodes _ inside _ =>
      intro free
      rw [isFlat, inside.sinkFree_eq_false] at free
      cases free
  | bind _ induction => exact fun flat => .bind (induction flat)
  | parameter bound _ induction =>
    exact fun flat => .parameter bound (induction flat)

end Program.Reads

end GraphPipeline
