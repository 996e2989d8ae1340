import GraphPipeline.Proofs.Evaluation.LockstepParts
import GraphPipeline.Proofs.Evaluation.MappedLists
import GraphPipeline.Proofs.Safety

/-!
# Evaluations that agree

The outcome of a program on a value depends on the trail, on the bindings the
program reads and on the pages that are recorded, and on nothing else in the
state: neither on the filters around it nor on absent values that were found
before.  The pages only decide whether a connection that holds no page is found
out, because a page is read once.  The error is then no rejection, and a
response that conforms to its document has no such connection.
-/

namespace GraphPipeline

namespace Evaluate

variable {α β : Type}

/-- What two states are compared in: the depths whose bindings are, whether
their trails are, whether the recorded pages are, whether the filters around the
current value are, and whether the trails of the last absent value are, if the
trails are. -/
structure Comparison where
  known : Nat → Prop
  trails : Prop
  pages : Prop
  verdicts : Prop
  absences : Prop

/-- Two states are the same in what is compared. -/
structure AlikeIn (compared : Comparison) (first second : EvaluationState) :
    Prop where
  bindings :
    ∀ depth, compared.known depth → first.binding? depth = second.binding? depth
  trail : compared.trails → first.trail = second.trail
  pages : compared.pages → first.pages = second.pages
  pending : compared.verdicts → first.pendingFilters = second.pendingFilters
  rejected : compared.verdicts → first.rejected = second.rejected
  absentAt :
    compared.trails → compared.absences → first.absentAt = second.absentAt

/-- Two evaluations come to the same value, or both fail.  If pages are not
compared, one of them may fail alone, with an error that is no rejection.
Errors are the same if trails are compared. -/
inductive Agrees (compared : Comparison) :
    Except ExtractionError α × EvaluationState →
      Except ExtractionError α × EvaluationState → Prop where
  | ok {value : α} {first second : EvaluationState} :
      AlikeIn compared first second →
        Agrees compared (.ok value, first) (.ok value, second)
  | error {error other : ExtractionError} {first second : EvaluationState} :
      (compared.trails → error = other) →
        Agrees compared (.error error, first) (.error other, second)
  | first {error : ExtractionError} {first : EvaluationState}
      {second : Except ExtractionError α × EvaluationState} :
      ¬ compared.pages → error.isRejection = false →
        Agrees compared (.error error, first) second
  | second {first : Except ExtractionError α × EvaluationState}
      {error : ExtractionError} {second : EvaluationState} :
      ¬ compared.pages → error.isRejection = false →
        Agrees compared first (.error error, second)

/-- From states that are alike, the action comes to outcomes that agree. -/
def Steady (compared : Comparison) (action : Evaluate α) : Prop :=
  ∀ first second, AlikeIn compared first second →
    Agrees compared (action.result first) (action.result second)

variable {compared : Comparison}

theorem AlikeIn.path {first second : EvaluationState}
    (alike : AlikeIn compared first second) (trails : compared.trails) :
    first.path = second.path := by
  rw [EvaluationState.path, EvaluationState.path, alike.trail trails]

/-- States with the same bindings, whose trails may be compared. -/
theorem AlikeIn.of_bindings {trails : Prop} {first second : EvaluationState}
    (same : first.binding? = second.binding?)
    (trail : trails → first.trail = second.trail) :
    AlikeIn ⟨fun _ => True, trails, False, False, False⟩ first second where
  bindings := fun depth _ => congrFun same depth
  trail := trail
  pages := False.elim
  pending := False.elim
  rejected := False.elim
  absentAt := fun _ => False.elim

/-- Two values that evaluations that agree come to are the same. -/
theorem Agrees.value_eq {one two : Except ExtractionError α × EvaluationState}
    (agrees : Agrees compared one two) {value other : α}
    (first : one.1 = .ok value) (second : two.1 = .ok other) :
    value = other := by
  cases agrees with
  | ok _ => exact Except.ok.inj (first.symm.trans second)
  | error _ => cases first
  | first _ _ => cases first
  | second _ _ => cases second

/-- Evaluations at one place that fail with rejections only have one outcome. -/
theorem Agrees.outcome_eq {one two : Except ExtractionError α × EvaluationState}
    (agrees : Agrees compared one two) (trails : compared.trails)
    (first : ∀ error, one.1 = .error error → error.isRejection = true)
    (second : ∀ error, two.1 = .error error → error.isRejection = true) :
    one.1 = two.1 := by
  cases agrees with
  | ok _ => rfl
  | error same => rw [same trails]
  | first _ breach => rw [first _ rfl] at breach; cases breach
  | second _ breach => rw [second _ rfl] at breach; cases breach

/-! ### Actions -/

theorem result_bind_of_runs {action : Evaluate α} {next : α → Evaluate β}
    {before after : EvaluationState} {value : α}
    (run : action.Runs before value after) :
    (action >>= next).result before = (next value).result after := by
  rw [result_bind, show action.result before = (.ok value, after) from run]

/-- What an action fails with, it fails with whatever follows. -/
theorem result_bind_error {action : Evaluate α} {next : α → Evaluate β}
    {state : EvaluationState} {error : ExtractionError}
    (failed : (action.result state).1 = .error error) :
    ((action >>= next).result state).1 = .error error := by
  rw [result_bind]
  cases outcome : action.result state with
  | mk result later =>
      rw [outcome] at failed
      simp only at failed
      rw [failed]

theorem steady_pure (value : α) : Steady compared (pure value) :=
  fun _ _ alike => .ok alike

theorem steady_failAt (error : ResponsePath → ExtractionError) :
    Steady compared (failAt error : Evaluate α) :=
  fun _ _ alike => .error fun trails => congrArg error (alike.path trails)

/-- What a computation comes to may depend on the path only in the path of its
error. -/
theorem steady_atPath {compute : ResponsePath → Except ExtractionError α}
    (uniform :
      ∀ path other,
        (∃ value, compute path = .ok value ∧ compute other = .ok value) ∨
        ∃ error another,
          compute path = .error error ∧ compute other = .error another) :
    Steady compared (atPath compute) := by
  intro first second alike
  rw [result_atPath, result_atPath]
  rcases uniform first.path second.path with
    ⟨value, firstSame, secondSame⟩ | ⟨error, other, firstSame, secondSame⟩
  · rw [firstSame, secondSame]
    exact .ok alike
  · rw [firstSame, secondSame]
    refine .error fun trails => ?_
    rw [alike.path trails, secondSame] at firstSame
    exact (Except.error.inj firstSame).symm

theorem steady_modify {change : EvaluationState → EvaluationState}
    (keeps : ∀ first second, AlikeIn compared first second →
      AlikeIn compared (change first) (change second)) :
    Steady compared (modify change) :=
  fun _ _ alike => .ok (keeps _ _ alike)

theorem Steady.bind {action : Evaluate α} {next : α → Evaluate β}
    (first : Steady compared action)
    (second : ∀ value, Steady compared (next value)) :
    Steady compared (action >>= next) := by
  intro one two alike
  have agrees := first one two alike
  rw [result_bind, result_bind]
  generalize action.result one = left at agrees ⊢
  generalize action.result two = right at agrees ⊢
  cases agrees with
  | ok later => exact second _ _ _ later
  | error same => exact .error same
  | first apart breach => exact .first apart breach
  | second apart breach => exact .second apart breach

@[simp] theorem result_modify_bind (change : EvaluationState → EvaluationState)
    (next : PUnit → Evaluate α) (state : EvaluationState) :
    (modify change >>= next).result state = (next ⟨⟩).result (change state) :=
  rfl

/-- An action that goes on with the state it finds. -/
theorem steady_get_bind {next : EvaluationState → Evaluate α}
    (after : ∀ first second, AlikeIn compared first second →
      Agrees compared ((next first).result first)
        ((next second).result second)) :
    Steady compared (get >>= next) :=
  fun first second alike => after first second alike

theorem steady_within (segment : PathSegment) {action : Evaluate α}
    (inside : Steady compared action) :
    Steady compared (within segment action) := by
  intro first second alike
  have agrees := inside { first with trail := segment :: first.trail }
    { second with trail := segment :: second.trail }
    { alike with trail := fun trails => by rw [alike.trail trails] }
  rw [result_within, result_within]
  generalize action.result { first with trail := segment :: first.trail } =
    one at agrees ⊢
  generalize action.result { second with trail := segment :: second.trail } =
    two at agrees ⊢
  cases agrees with
  | ok later =>
    exact .ok
      { later with trail := fun trails => by simp only [later.trail trails] }
  | error same => exact .error same
  | first apart breach => exact .first apart breach
  | second apart breach => exact .second apart breach

theorem AlikeIn.rebind {first second : EvaluationState} {depth : Nat}
    {left right : Option Json} {others : Nat → Prop}
    (alike : AlikeIn compared first second)
    (knows : ∀ other, others other → other ≠ depth → compared.known other)
    (same : others depth → left = right) :
    AlikeIn { compared with known := others } (first.rebind depth left)
      (second.rebind depth right) := by
  refine { alike with bindings := fun other knownHere => ?_ }
  rw [EvaluationState.binding?_rebind, EvaluationState.binding?_rebind]
  by_cases here : other = depth
  · subst other
    rw [Function.update_self, Function.update_self, same knownHere]
  · rw [Function.update_of_ne here, Function.update_of_ne here]
    exact alike.bindings other (knows other knownHere here)

/-- A value that is bound is known inside. -/
theorem steady_binding {depth : Nat} {value : Json} {action : Evaluate α}
    (inside : Steady
      { compared with
        known := fun other => other = depth ∨ compared.known other } action) :
    Steady compared (binding depth value action) := by
  intro first second alike
  have agrees :=
    inside (first.rebind depth (some value)) (second.rebind depth (some value))
      (alike.rebind (fun other knownHere apart => knownHere.resolve_left apart)
        fun _ => rfl)
  rw [result_binding, result_binding]
  generalize action.result (first.rebind depth (some value)) = one at agrees ⊢
  generalize action.result (second.rebind depth (some value)) = two at agrees ⊢
  cases agrees with
  | ok later =>
      exact .ok (later.rebind (fun other knownHere _ => Or.inr knownHere)
        fun knownHere => alike.bindings depth knownHere)
  | error same => exact .error same
  | first apart breach => exact .first apart breach
  | second apart breach => exact .second apart breach

theorem steady_isolated {action : Evaluate α}
    (inside : Steady compared action) :
    Steady compared (isolated action) := by
  intro first second alike
  have agrees := inside first second alike
  rw [result_isolated, result_isolated]
  generalize action.result first = one at agrees ⊢
  generalize action.result second = two at agrees ⊢
  cases agrees with
  | ok later =>
      exact .ok
        { later with pending := alike.pending, rejected := alike.rejected }
  | error same => exact .error same
  | first apart breach => exact .first apart breach
  | second apart breach => exact .second apart breach

theorem steady_absent : Steady compared absent := by
  refine Steady.bind (steady_modify fun first second alike => ?_)
    fun _ => steady_pure _
  refine { alike with
    rejected := fun judged => ?_, absentAt := fun trails _ => ?_ }
  · simp only [EvaluationState.markAbsent, alike.rejected judged,
      alike.pending judged]
  · simp only [EvaluationState.markAbsent, alike.trail trails]

/-! ### Parts of programs -/

mutual

theorem checkLeaf_steady (name : String) (kind : TypeKind) (value : Json)
    (wrapping : Wrapping) :
    Steady compared (checkLeaf name kind value wrapping) := by
  have kindChecked : ∀ value,
      Steady compared (checkKind name kind value) := by
    intro value
    unfold checkKind
    split
    · exact steady_pure _
    · exact steady_failAt _
  have singleChecked : ∀ value,
      Steady compared (checkSingle name kind value wrapping) := by
    intro value
    unfold checkSingle
    split
    · exact steady_failAt _
    · exact kindChecked value
  cases value with
  | null =>
      unfold checkLeaf
      split
      · exact steady_failAt _
      · exact steady_pure _
  | array items =>
      unfold checkLeaf
      cases wrapping.element? with
      | some element => exact checkItems_steady name kind items element 0
      | none => exact kindChecked _
  | bool value => simpa only [checkLeaf] using singleChecked _
  | number value => simpa only [checkLeaf] using singleChecked _
  | string value => simpa only [checkLeaf] using singleChecked _
  | object members => simpa only [checkLeaf] using singleChecked _

theorem checkItems_steady (name : String) (kind : TypeKind) (items : List Json)
    (wrapping : Wrapping) (index : Nat) :
    Steady compared (checkItems name kind items wrapping index) := by
  cases items with
  | nil => exact steady_pure _
  | cons item items =>
      unfold checkItems
      exact (steady_within _
        (checkLeaf_steady name kind item wrapping)).bind fun _ =>
        checkItems_steady name kind items wrapping _

end

theorem memberOf_steady (value : Json) (key : String) :
    Steady compared (memberOf value key) := by
  refine steady_atPath fun path other => ?_
  cases value with
  | object members =>
      simp only
      cases Entries.lookup? members key with
      | some member => exact Or.inl ⟨member, rfl, rfl⟩
      | none => exact Or.inr ⟨_, _, rfl, rfl⟩
  | null => exact Or.inr ⟨_, _, rfl, rfl⟩
  | bool value => exact Or.inr ⟨_, _, rfl, rfl⟩
  | number value => exact Or.inr ⟨_, _, rfl, rfl⟩
  | string value => exact Or.inr ⟨_, _, rfl, rfl⟩
  | array items => exact Or.inr ⟨_, _, rfl, rfl⟩

theorem itemsOf_steady (value : Json) : Steady compared (itemsOf value) := by
  refine steady_atPath fun path other => ?_
  cases value with
  | array items => exact Or.inl ⟨items, rfl, rfl⟩
  | null => exact Or.inr ⟨_, _, rfl, rfl⟩
  | bool value => exact Or.inr ⟨_, _, rfl, rfl⟩
  | number value => exact Or.inr ⟨_, _, rfl, rfl⟩
  | string value => exact Or.inr ⟨_, _, rfl, rfl⟩
  | object members => exact Or.inr ⟨_, _, rfl, rfl⟩

theorem readLeaf_steady (key : String) (type : TypeRef) (value : Json) :
    Steady compared (readLeaf key type value) := by
  unfold readLeaf
  refine (memberOf_steady value key).bind fun leaf => steady_within _ ?_
  have checked : Steady compared
      (do checkLeaf type.name type.kind leaf type.wrapping; pure leaf) :=
    (checkLeaf_steady _ _ _ _).bind fun _ => steady_pure _
  split
  · refine Steady.bind (steady_modify fun first second alike => ?_)
      fun _ => checked
    exact { alike with absentAt := fun trails _ => by rw [alike.trail trails] }
  · exact checked

/-- Whether an item is left out depends on its own evaluation alone. -/
theorem mapItems_steady {filters : Nat} {evaluate : Json → Evaluate Json}
    {items : List Json}
    (each : ∀ item ∈ items,
      Steady { compared with verdicts := True } (evaluate item)) (index : Nat) :
    Steady compared (mapItems filters evaluate items index) := by
  induction items generalizing index with
  | nil => exact steady_pure _
  | cons item items induction =>
      intro first second alike
      have judged : AlikeIn { compared with verdicts := True }
          { first with pendingFilters := filters, rejected := false }
          { second with pendingFilters := filters, rejected := false } :=
        { alike with pending := fun _ => rfl, rejected := fun _ => rfl }
      have agrees := steady_within (.index index)
        (each item List.mem_cons_self) _ _ judged
      rw [mapItems, result_modify_bind, result_modify_bind, result_bind,
        result_bind]
      generalize (within (.index index) (evaluate item)).result
        { first with pendingFilters := filters, rejected := false } =
          one at agrees ⊢
      generalize (within (.index index) (evaluate item)).result
        { second with pendingFilters := filters, rejected := false } =
          two at agrees ⊢
      cases agrees with
      | error same => exact .error same
      | first apart breach => exact .first apart breach
      | second apart breach => exact .second apart breach
      | @ok output one two later =>
          have others := induction (fun other member => each other
            (List.mem_cons_of_mem _ member)) (index + 1)
          have rest := others.bind fun outputs =>
            steady_pure (if one.rejected then outputs else output :: outputs)
          have agrees := rest one two
            { later with
              pending := fun _ => later.pending trivial
              rejected := fun _ => later.rejected trivial }
          simp only [result_bind, result_get]
          rw [result_bind, result_bind, later.rejected trivial] at agrees
          rw [later.rejected trivial]
          exact agrees

theorem dictionaryKey_steady (key : Json) :
    Steady compared (dictionaryKey key) := by
  unfold dictionaryKey
  split
  · exact steady_pure _
  · exact steady_pure _
  · exact steady_pure _
  · exact steady_failAt _

theorem insertEntry_steady (dictionary : Entries Json) (entry : Json) :
    Steady compared (insertEntry dictionary entry) := by
  unfold insertEntry
  split
  · exact steady_pure _
  · refine (dictionaryKey_steady _).bind fun key => ?_
    split
    · exact steady_failAt _
    · exact steady_pure _
  · exact steady_failAt _

theorem addEntries_steady {evaluate : Json → Evaluate Json} {items : List Json}
    (each : ∀ item ∈ items,
      Steady compared (evaluate item))
    (index : Nat) (dictionary : Entries Json) :
    Steady compared (addEntries evaluate items index dictionary) := by
  induction items generalizing index dictionary with
  | nil => exact steady_pure _
  | cons item items induction =>
      unfold addEntries
      refine (steady_within _ ((each item List.mem_cons_self).bind
        (insertEntry_steady dictionary))).bind fun _ => ?_
      exact induction
        (fun other member => each other (List.mem_cons_of_mem _ member)) _ _

/-- The error is about the place of the last absent value that was found
inside. -/
theorem required_steady {action : Evaluate Json}
    (inside : Steady { compared with absences := True } action) :
    Steady compared (required action) := by
  intro first second alike
  have cleared :
      AlikeIn { compared with absences := True } { first with absentAt := none }
        { second with absentAt := none } :=
    { alike with absentAt := fun _ _ => rfl }
  have agrees := inside _ _ cleared
  rw [required, result_modify_bind, result_modify_bind, result_bind,
    result_bind]
  generalize action.result { first with absentAt := none } = one at agrees ⊢
  generalize action.result { second with absentAt := none } = two at agrees ⊢
  cases agrees with
  | error same => exact .error same
  | first apart breach => exact .first apart breach
  | second apart breach => exact .second apart breach
  | @ok output one two later =>
      cases absence : output.isNull with
      | true =>
          simp only [absence, if_true, result_bind, result_get, result_throw]
          refine .error fun trails => ?_
          rw [later.absentAt trails trivial, later.trail trails]
      | false =>
          simp only [absence, Bool.false_eq_true, if_false, result_pure]
          exact .ok
            { later with
              absentAt := fun trails _ => later.absentAt trails trivial }

theorem narrowed_steady {typeName : String} {mode : NarrowingMode}
    {evaluate : Json → Evaluate Json} {value : Json}
    (inside : Steady compared (evaluate value)) :
    Steady compared (narrowed typeName mode evaluate value) := by
  have named : Steady compared (typenameOf value) := by
    unfold typenameOf
    split
    · exact steady_pure _
    · exact steady_failAt _
  unfold narrowed
  split
  · exact steady_absent
  · exact steady_failAt _
  · refine named.bind fun received => ?_
    split
    · refine Steady.bind (steady_modify fun first second alike => ?_)
        fun _ => inside
      exact { alike with pending := fun judged => by rw [alike.pending judged] }
    · exact inside
    · exact steady_absent
    · exact steady_failAt _

/-- A connection that holds no page is no rejection. -/
theorem isRejection_of_read {connection : Json} {keys : PageKeys}
    {path : ResponsePath} {error : ExtractionError}
    (failed : Page.read connection keys path = .error error) :
    error.isRejection = false := by
  unfold Page.read at failed
  cases connection with
  | object members =>
      simp only [Page.objectAt, Page.pageInfoAt, bind, Except.bind] at failed
      cases info :
          (Entries.lookup? members keys.pageInfo).bind Json.members? with
      | none =>
          simp only [info] at failed
          cases failed
          rfl
      | some pageInfo =>
          simp only [info, Page.hasNextPageAt] at failed
          cases flag :
              (Entries.lookup? pageInfo keys.hasNextPage).bind Json.bool? with
          | none =>
              simp only [flag] at failed
              cases failed
              rfl
          | some hasNextPage =>
              simp only [flag, Page.nodesAt] at failed
              split at failed
              · rename_i unread
                cases failed
                split at unread
                · cases unread
                · cases unread
                · cases unread
                  rfl
                · cases unread
                  rfl
              · cases failed
  | null => cases failed; rfl
  | bool value => cases failed; rfl
  | number value => cases failed; rfl
  | string value => cases failed; rfl
  | array items => cases failed; rfl

theorem steady_read (connection : Json) (keys : PageKeys) :
    Steady compared (atPath (Page.read connection keys)) := by
  refine steady_atPath fun path other => ?_
  unfold Page.read
  cases connection with
  | object members =>
      simp only [Page.objectAt, Page.pageInfoAt, bind, Except.bind]
      cases (Entries.lookup? members keys.pageInfo).bind Json.members? with
      | none => exact Or.inr ⟨_, _, rfl, rfl⟩
      | some pageInfo =>
          simp only [Page.hasNextPageAt]
          cases (Entries.lookup? pageInfo keys.hasNextPage).bind Json.bool? with
          | none => exact Or.inr ⟨_, _, rfl, rfl⟩
          | some hasNextPage =>
              simp only [Page.nodesAt]
              cases Entries.lookup? members keys.nodes with
              | none => exact Or.inr ⟨_, _, rfl, rfl⟩
              | some nodes =>
                  cases nodes with
                  | array nodes => exact Or.inl ⟨_, rfl, rfl⟩
                  | null => exact Or.inl ⟨_, rfl, rfl⟩
                  | bool value => exact Or.inr ⟨_, _, rfl, rfl⟩
                  | number value => exact Or.inr ⟨_, _, rfl, rfl⟩
                  | string value => exact Or.inr ⟨_, _, rfl, rfl⟩
                  | object members => exact Or.inr ⟨_, _, rfl, rfl⟩
  | null => exact Or.inr ⟨_, _, rfl, rfl⟩
  | bool value => exact Or.inr ⟨_, _, rfl, rfl⟩
  | number value => exact Or.inr ⟨_, _, rfl, rfl⟩
  | string value => exact Or.inr ⟨_, _, rfl, rfl⟩
  | array items => exact Or.inr ⟨_, _, rfl, rfl⟩

/-- Nothing but the pages changes, or there is no page to record. -/
theorem result_recordPage (id : SubqueryId) (keys : PageKeys)
    (connection : Json) (state : EvaluationState) :
    (∃ pages, (recordPage id keys connection).result state =
      (.ok ⟨⟩, { state with pages })) ∨
      ∃ error, error.isRejection = false ∧
        (recordPage id keys connection).result state =
          (.error error, state) := by
  simp only [recordPage, result_bind, result_get]
  cases state.pages.lookup? id with
  | some page => exact Or.inl ⟨state.pages, rfl⟩
  | none =>
      simp only [result_bind, result_atPath]
      cases read : Page.read connection keys state.path with
      | error error => exact Or.inr ⟨error, isRejection_of_read read, rfl⟩
      | ok page => exact Or.inl ⟨state.pages ++ [(id, page)], rfl⟩

/-- If pages are not compared, one may be recorded in one state and not in the
other. -/
theorem recordPage_steady (id : SubqueryId) (keys : PageKeys)
    (connection : Json) :
    Steady compared (recordPage id keys connection) := by
  by_cases same : compared.pages
  · unfold recordPage
    refine steady_get_bind fun first second alike => ?_
    rw [alike.pages same]
    cases second.pages.lookup? id with
    | some page => exact steady_pure _ first second alike
    | none =>
        refine (steady_read connection keys).bind (fun page => ?_) first second
          alike
        refine steady_modify fun first second alike => ?_
        exact { alike with pages := fun same => by rw [alike.pages same] }
  · intro first second alike
    rcases result_recordPage id keys connection first with
      ⟨_, firstSame⟩ | ⟨_, breach, firstSame⟩
    · rcases result_recordPage id keys connection second with
        ⟨_, secondSame⟩ | ⟨_, breach, secondSame⟩
      · rw [firstSame, secondSame]
        exact .ok { alike with pages := fun holds => absurd holds same }
      · rw [secondSame]
        exact .second same breach
    · rw [firstSame]
      exact .first same breach

theorem nodesOf_steady (given : Option AllNodes) (id : SubqueryId)
    (keys : PageKeys) (connection : Json) :
    Steady compared (nodesOf given id keys connection) := by
  unfold nodesOf
  cases given.bind (·.lookup? id) with
  | some nodes => exact steady_pure _
  | none =>
      refine (memberOf_steady connection keys.nodes).bind fun nodes => ?_
      cases given with
      | none =>
        exact (recordPage_steady id keys connection).bind fun _ => steady_pure _
      | some given => exact steady_pure _

/-! ### Programs -/

mutual

/-- The outcome of a program depends on the trail and on the bindings it reads,
its value on these bindings alone. -/
theorem program_steady (given : Option AllNodes) (program : Program)
    (value : Json)
    {compared : Comparison}
    (reads : ∀ depth, program.readsBound depth = true → compared.known depth) :
    Steady compared (Evaluate.program given program value) := by
  cases program with
  | field key inner =>
      unfold Evaluate.program
      exact (memberOf_steady value key).bind fun member =>
        steady_within _ (program_steady given inner member reads)
  | readScalar key type =>
      unfold Evaluate.program
      exact readLeaf_steady key type value
  | optional inner =>
      unfold Evaluate.program
      split
      · exact steady_absent
      · exact program_steady given inner value reads
  | mapList filters inner =>
      unfold Evaluate.program
      refine (itemsOf_steady value).bind fun items => ?_
      refine (steady_isolated
        (mapItems_steady (fun item _ => ?_) 0)).bind fun _ =>
        steady_pure _
      exact program_steady given inner item reads
  | narrow typeName mode inner =>
      unfold Evaluate.program
      exact narrowed_steady (program_steady given inner value reads)
  | buildRecord fields =>
      unfold Evaluate.program
      exact (fieldPrograms_steady given fields value reads).bind
        fun _ => steady_pure _
  | enforceSingle inner =>
      unfold Evaluate.program
      exact required_steady (program_steady given inner value reads)
  | toDictionary entry =>
      unfold Evaluate.program
      refine (itemsOf_steady value).bind fun items => ?_
      exact (addEntries_steady (fun item _ =>
        program_steady given entry item reads) 0 []).bind fun _ => steady_pure _
  | keyValue key inner =>
      unfold Evaluate.program
      refine (program_steady given key value fun depth here =>
        reads depth (by simp [Program.readsBound, here])).bind fun _ => ?_
      exact (program_steady given inner value fun depth here =>
        reads depth (by simp [Program.readsBound, here])).bind
          fun _ => steady_pure _
  | subquerySink id keys inner =>
      unfold Evaluate.program
      exact (nodesOf_steady given id keys value).bind fun nodes =>
        steady_within _ (program_steady given inner nodes reads)
  | bind depth inner =>
      unfold Evaluate.program
      refine steady_binding
        (program_steady given inner value fun other here => ?_)
      by_cases same : other = depth
      · exact Or.inl same
      · exact Or.inr
          (reads other (by simp [Program.readsBound, here, Ne.symm same]))
  | parameter depth inner =>
      unfold Evaluate.program
      refine steady_get_bind fun first second alike => ?_
      rw [alike.bindings depth (reads depth (by simp [Program.readsBound]))]
      cases second.binding? depth with
      | none => exact steady_failAt _ first second alike
      | some element =>
          exact program_steady given inner element (fun other here =>
            reads other (by simp [Program.readsBound, here])) first second alike
termination_by structural program

theorem fieldPrograms_steady (given : Option AllNodes)
    (fields : List (String × Program)) (value : Json) {compared : Comparison}
    (reads : ∀ depth, Program.readsBoundInFields depth fields = true →
      compared.known depth) :
    Steady compared (fieldPrograms given fields value) := by
  cases fields with
  | nil => exact steady_pure _
  | cons field fields =>
      obtain ⟨key, inner⟩ := field
      unfold fieldPrograms
      refine (program_steady given inner value fun depth here =>
        reads depth (by simp [Program.readsBoundInFields, here])).bind
          fun _ => ?_
      exact (fieldPrograms_steady given fields value fun depth here =>
        reads depth (by simp [Program.readsBoundInFields, here])).bind
          fun _ => steady_pure _
termination_by structural fields

end

end Evaluate

/-! ### Outputs -/

namespace Program.Gives

open Evaluate

variable {given : Option AllNodes} {bindings : Nat → Option Json}
  {program : Program} {value output other : Json}

/-- With some bindings, a program has one output for a value, wherever the value
is. -/
theorem unique (first : program.Gives given bindings value output)
    (second : program.Gives given bindings value other) : output = other := by
  obtain ⟨one, _, firstRun, rfl⟩ := first
  obtain ⟨two, _, secondRun, same⟩ := second
  have alike := AlikeIn.of_bindings same.symm False.elim
  exact (program_steady given program value (fun _ _ => trivial) one two
    alike).value_eq (congrArg Prod.fst firstRun) (congrArg Prod.fst secondRun)

/-- A program gives its output from any state with the bindings, unless a
connection holds no page there. -/
theorem runs (gives : program.Gives given bindings value output)
    {state : EvaluationState}
    (bound : state.binding? = bindings) :
    (∃ later, (Evaluate.program given program value).Runs state output later) ∨
      ∃ error, error.isRejection = false ∧
        ((Evaluate.program given program value).result state).1 =
          .error error := by
  obtain ⟨before, after, run, rfl⟩ := gives
  have alike := AlikeIn.of_bindings bound.symm False.elim
  have agrees :=
    program_steady given program value (fun _ _ => trivial) before state alike
  rw [run] at agrees
  generalize ran :
      (Evaluate.program given program value).result state = other at agrees
  cases agrees with
  | @ok _ _ later _ => exact Or.inl ⟨later, ran⟩
  | @second _ error _ _ breach => exact Or.inr ⟨error, breach, rfl⟩

/-- What is bound at a depth the program does not read makes no difference. -/
theorem rebind_unread {depth : Nat} (unread : program.readsBound depth = false)
    (gives : program.Gives given bindings value output) (element : Json) :
    program.Gives given (Function.update bindings depth (some element)) value
      output := by
  obtain ⟨before, after, run, rfl⟩ := gives
  have alike :
      AlikeIn ⟨fun other => other ≠ depth, True, True, True, True⟩ before
        (before.rebind depth (some element)) := by
    refine ⟨fun other apart => ?_, fun _ => rfl, fun _ => rfl, fun _ => rfl,
      fun _ => rfl, fun _ _ => rfl⟩
    rw [EvaluationState.binding?_rebind, Function.update_of_ne apart]
  have agrees := program_steady given program value (fun other here same => by
    rw [same, unread] at here
    cases here) before _ alike
  rw [run] at agrees
  generalize ran : (Evaluate.program given program value).result
    (before.rebind depth (some element)) = other at agrees
  cases agrees with
  | @ok _ _ last later =>
      exact ⟨before.rebind depth (some element), last, ran,
        EvaluationState.binding?_rebind _ _ _⟩
  | second apart => exact absurd trivial apart

end Program.Gives

end GraphPipeline
