import GraphPipeline.Proofs.Evaluation.Actions

/-!
# Disciplines of an evaluation

The parts of a program change the state in few ways.  A relation in which each
of these changes stays relates every state that a program is evaluated from to
the state that it leaves, whatever it results in.
-/

namespace GraphPipeline

namespace Evaluate

variable {α β : Type} {relation : EvaluationState → EvaluationState → Prop}

/-- From every state the action leaves one in the relation to it, also when it
fails. -/
def Preserves (relation : EvaluationState → EvaluationState → Prop)
    (action : Evaluate α) :
    Prop :=
  ∀ state, relation state (action.result state).2

/-- A relation in which the changes of the state stay, except for those at the
elements of a list. -/
structure Discipline (relation : EvaluationState → EvaluationState → Prop) :
    Prop where
  refl : ∀ state, relation state state
  trans :
    ∀ {first second third}, relation first second → relation second third →
      relation first third
  within :
    ∀ {segment state last},
      relation { state with trail := segment :: state.trail } last →
      relation state { last with trail := last.trail.tail }
  binding :
    ∀ {depth value state last}, relation (state.rebind depth value) last →
      relation state (last.rebind depth (state.binding? depth))
  absent : ∀ state, relation state state.markAbsent
  noted : ∀ state trail, relation state { state with absentAt := trail }
  passed : ∀ state,
    relation state { state with pendingFilters := state.pendingFilters - 1 }
  recorded : ∀ {id state} page, state.pages.lookup? id = none →
    relation state { state with pages := state.pages ++ [(id, page)] }

/-- A discipline that the lists in a program keep to as well. -/
structure ListDiscipline (relation : EvaluationState → EvaluationState → Prop) :
    Prop extends Discipline relation where
  mapped : ∀ {filters evaluate}, (∀ item, Preserves relation (evaluate item)) →
    ∀ items, Preserves relation (isolated (mapItems filters evaluate items 0))

theorem preserves_modify {change : EvaluationState → EvaluationState}
    (changed : ∀ state, relation state (change state)) :
    Preserves relation (modify change) :=
  changed

section rules

variable (discipline : Discipline relation)
include discipline

theorem preserves_pure (value : α) : Preserves relation (pure value) :=
  discipline.refl

theorem preserves_throw (error : ExtractionError) :
    Preserves relation (throw error : Evaluate α) :=
  discipline.refl

theorem preserves_failAt (error : ResponsePath → ExtractionError) :
    Preserves relation (failAt error : Evaluate α) :=
  discipline.refl

theorem preserves_get : Preserves relation (get : Evaluate EvaluationState) :=
  discipline.refl

theorem preserves_atPath (compute : ResponsePath → Except ExtractionError α) :
    Preserves relation (atPath compute) := by
  intro state
  rw [result_atPath]
  exact discipline.refl state

theorem preserves_absent : Preserves relation absent :=
  discipline.absent

theorem preserves_bind {action : Evaluate α} {next : α → Evaluate β}
    (first : Preserves relation action)
    (second : ∀ value, Preserves relation (next value)) :
    Preserves relation (action >>= next) := by
  intro state
  have early := first state
  rw [result_bind]
  cases outcome : action.result state with
  | mk result later =>
      rw [outcome] at early
      cases result with
      | error error => exact early
      | ok value => exact discipline.trans early (second value later)

theorem preserves_within (segment : PathSegment) {action : Evaluate α}
    (inside : Preserves relation action) :
    Preserves relation (within segment action) := by
  intro state
  rw [result_within]
  exact discipline.within (inside _)

theorem preserves_binding (depth : Nat) (value : Json) {action : Evaluate α}
    (inside : Preserves relation action) :
    Preserves relation (binding depth value action) := by
  intro state
  rw [result_binding]
  exact discipline.binding (inside _)

end rules

/-! ### The parts of a program -/

section parts

variable (discipline : Discipline relation)
include discipline

mutual

theorem checkLeaf_preserves (name : String) (kind : TypeKind) (value : Json)
    (wrapping : Wrapping) :
    Preserves relation (checkLeaf name kind value wrapping) := by
  have kindChecked :
      ∀ value, Preserves relation (checkKind name kind value) := by
    intro value
    unfold checkKind
    split
    · exact preserves_pure discipline _
    · exact preserves_failAt discipline _
  have singleChecked :
      ∀ value, Preserves relation (checkSingle name kind value wrapping) := by
    intro value
    unfold checkSingle
    split
    · exact preserves_failAt discipline _
    · exact kindChecked value
  cases value with
  | null =>
      unfold checkLeaf
      split
      · exact preserves_failAt discipline _
      · exact preserves_pure discipline _
  | array items =>
      unfold checkLeaf
      split
      · exact checkItems_preserves name kind items _ 0
      · exact kindChecked _
  | bool value => simpa only [checkLeaf] using singleChecked _
  | number value => simpa only [checkLeaf] using singleChecked _
  | string value => simpa only [checkLeaf] using singleChecked _
  | object members => simpa only [checkLeaf] using singleChecked _

theorem checkItems_preserves (name : String) (kind : TypeKind)
    (items : List Json) (wrapping : Wrapping) (index : Nat) :
    Preserves relation (checkItems name kind items wrapping index) := by
  cases items with
  | nil => exact preserves_pure discipline _
  | cons item items =>
      unfold checkItems
      have here := checkLeaf_preserves name kind item wrapping
      apply preserves_bind discipline (preserves_within discipline _ here)
      intro _
      exact checkItems_preserves name kind items wrapping _

end

theorem readLeaf_preserves (key : String) (type : TypeRef) (value : Json) :
    Preserves relation (readLeaf key type value) := by
  unfold readLeaf
  apply preserves_bind discipline (preserves_atPath discipline _)
  intro leaf
  apply preserves_within discipline
  have checked : Preserves relation
      (do checkLeaf type.name type.kind leaf type.wrapping; pure leaf) :=
    preserves_bind discipline (checkLeaf_preserves discipline _ _ _ _)
      fun _ => preserves_pure discipline _
  split
  · refine preserves_bind discipline (preserves_modify ?_) fun _ => checked
    exact fun state => discipline.noted state _
  · exact checked

/-- The items of a list are evaluated one after the other, each with new
filters. -/
theorem mapItems_preserves
    (renewed : ∀ state filters rejected,
      relation state { state with pendingFilters := filters, rejected })
    {filters : Nat} {evaluate : Json → Evaluate Json}
    (each : ∀ item, Preserves relation (evaluate item)) (items : List Json)
    (index : Nat) :
    Preserves relation (mapItems filters evaluate items index) := by
  induction items generalizing index with
  | nil => exact preserves_pure discipline _
  | cons item items induction =>
      unfold mapItems
      refine preserves_bind discipline (preserves_modify ?_) fun _ => ?_
      · exact fun state => renewed state _ _
      apply preserves_bind discipline
        (preserves_within discipline _ (each item))
      intro output
      apply preserves_bind discipline (preserves_get discipline)
      intro state
      exact preserves_bind discipline (induction _)
        fun outputs => preserves_pure discipline _

theorem narrowed_preserves {typeName : String} {mode : NarrowingMode}
    {evaluate : Json → Evaluate Json} {value : Json}
    (inside : Preserves relation (evaluate value)) :
    Preserves relation (narrowed typeName mode evaluate value) := by
  have named : Preserves relation (typenameOf value) := by
    unfold typenameOf
    split
    · exact preserves_pure discipline _
    · exact preserves_failAt discipline _
  unfold narrowed
  split
  · exact preserves_absent discipline
  · exact preserves_failAt discipline _
  · apply preserves_bind discipline named
    intro received
    split
    · exact preserves_bind discipline (preserves_modify discipline.passed)
        fun _ => inside
    · exact inside
    · exact preserves_absent discipline
    · exact preserves_failAt discipline _

theorem insertEntry_preserves (dictionary : Entries Json) (entry : Json) :
    Preserves relation (insertEntry dictionary entry) := by
  have keyed : ∀ key, Preserves relation (dictionaryKey key) := by
    intro key
    unfold dictionaryKey
    split
    · exact preserves_pure discipline _
    · exact preserves_pure discipline _
    · exact preserves_pure discipline _
    · exact preserves_failAt discipline _
  unfold insertEntry
  split
  · exact preserves_pure discipline _
  · apply preserves_bind discipline (keyed _)
    intro key
    split
    · exact preserves_failAt discipline _
    · exact preserves_pure discipline _
  · exact preserves_failAt discipline _

theorem addEntries_preserves {evaluate : Json → Evaluate Json}
    (each : ∀ item, Preserves relation (evaluate item)) (items : List Json)
    (index : Nat) (dictionary : Entries Json) :
    Preserves relation (addEntries evaluate items index dictionary) := by
  induction items generalizing index dictionary with
  | nil => exact preserves_pure discipline _
  | cons item items induction =>
      unfold addEntries
      have entered := preserves_bind discipline (each item)
        (insertEntry_preserves discipline dictionary)
      exact preserves_bind discipline (preserves_within discipline _ entered)
        fun _ => induction _ _

theorem required_preserves {action : Evaluate Json}
    (inside : Preserves relation action) :
    Preserves relation (required action) := by
  unfold required
  refine preserves_bind discipline (preserves_modify ?_) fun _ => ?_
  · exact fun state => discipline.noted state none
  apply preserves_bind discipline inside
  intro result
  split
  · apply preserves_bind discipline (preserves_get discipline)
    intro state
    exact preserves_bind discipline (preserves_throw discipline _)
      fun _ => preserves_pure discipline _
  · exact preserves_pure discipline _

/-- A page is recorded only of a connection of which none is. -/
theorem recordPage_preserves (id : SubqueryId) (keys : PageKeys)
    (connection : Json) :
    Preserves relation (recordPage id keys connection) := by
  intro state
  simp only [recordPage, result_bind, result_get]
  cases known : state.pages.lookup? id with
  | some page => exact discipline.refl state
  | none =>
      simp only [result_bind, result_atPath]
      cases Page.read connection keys state.path with
      | error error => exact discipline.refl state
      | ok page => exact discipline.recorded page known

theorem nodesOf_preserves (given : Option AllNodes) (id : SubqueryId)
    (keys : PageKeys) (connection : Json) :
    Preserves relation (nodesOf given id keys connection) := by
  unfold nodesOf
  cases given.bind (·.lookup? id) with
  | some nodes => exact preserves_pure discipline _
  | none =>
      apply preserves_bind discipline (preserves_atPath discipline _)
      intro nodes
      cases given with
      | none =>
          exact preserves_bind discipline
            (recordPage_preserves discipline id keys connection)
            fun _ => preserves_pure discipline _
      | some given => exact preserves_pure discipline _

end parts

section programs

variable (lists : ListDiscipline relation)
include lists

mutual

/-- A program keeps to a discipline to which the lists in it keep. -/
theorem program_preserves (given : Option AllNodes) (program : Program)
    (value : Json) :
    Preserves relation (Evaluate.program given program value) := by
  have discipline := lists.toDiscipline
  cases program with
  | field key inner =>
      unfold Evaluate.program
      apply preserves_bind discipline (preserves_atPath discipline _)
      exact fun member =>
        preserves_within discipline _ (program_preserves given inner member)
  | readScalar key type =>
      unfold Evaluate.program
      exact readLeaf_preserves discipline key type value
  | optional inner =>
      unfold Evaluate.program
      split
      · exact preserves_absent discipline
      · exact program_preserves given inner value
  | mapList filters inner =>
      unfold Evaluate.program
      apply preserves_bind discipline (preserves_atPath discipline _)
      intro items
      exact preserves_bind discipline
        (lists.mapped (fun item => program_preserves given inner item) items)
        fun _ => preserves_pure discipline _
  | narrow typeName mode inner =>
      unfold Evaluate.program
      exact narrowed_preserves discipline (program_preserves given inner value)
  | buildRecord fields =>
      unfold Evaluate.program
      exact preserves_bind discipline
        (fieldPrograms_preserves given fields value)
        fun _ => preserves_pure discipline _
  | enforceSingle inner =>
      unfold Evaluate.program
      exact required_preserves discipline (program_preserves given inner value)
  | toDictionary entry =>
      unfold Evaluate.program
      apply preserves_bind discipline (preserves_atPath discipline _)
      intro items
      exact preserves_bind discipline
        (addEntries_preserves discipline
          (fun item => program_preserves given entry item) items 0 [])
        fun _ => preserves_pure discipline _
  | keyValue key inner =>
      unfold Evaluate.program
      apply preserves_bind discipline (program_preserves given key value)
      intro _
      exact preserves_bind discipline (program_preserves given inner value)
        fun _ => preserves_pure discipline _
  | subquerySink id keys inner =>
      unfold Evaluate.program
      apply preserves_bind discipline
        (nodesOf_preserves discipline given id keys value)
      exact fun nodes =>
        preserves_within discipline _ (program_preserves given inner nodes)
  | bind depth inner =>
      unfold Evaluate.program
      exact preserves_binding discipline depth value
        (program_preserves given inner value)
  | parameter depth inner =>
      unfold Evaluate.program
      apply preserves_bind discipline (preserves_get discipline)
      intro state
      split
      · exact program_preserves given inner _
      · exact preserves_failAt discipline _

theorem fieldPrograms_preserves (given : Option AllNodes)
    (fields : List (String × Program)) (value : Json) :
    Preserves relation (fieldPrograms given fields value) := by
  have discipline := lists.toDiscipline
  cases fields with
  | nil => exact preserves_pure discipline _
  | cons field fields =>
      obtain ⟨key, inner⟩ := field
      unfold fieldPrograms
      apply preserves_bind discipline (program_preserves given inner value)
      intro _
      exact preserves_bind discipline
        (fieldPrograms_preserves given fields value)
        fun _ => preserves_pure discipline _

end

end programs

end Evaluate

end GraphPipeline
