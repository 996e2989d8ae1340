import GraphPipeline.Proofs.Evaluation.Readings

/-!
# Settled evaluations

What the parts of a program settle to, if the programs inside of them do.  A
program whose parameters are all bound never misses one, whatever the data, and
records no pages but those of the connections it comes to.
-/

namespace GraphPipeline

/-- A key and a value, or null for none. -/
def Json.IsEntry (value : Json) : Prop :=
  value = .null ∨ ∃ key member, value = .array [key, member]

/-- Every depth a program reads is bound. -/
def Program.IsBound (program : Program) (bindings : Nat → Option Json) : Prop :=
  ∀ depth, program.readsBound depth = true → (bindings depth).isSome = true

namespace Program.IsBound

variable {bindings : Nat → Option Json} {depth : Nat}
  {keyed valued inner : Program} {field : String × Program}
  {fields : List (String × Program)}

theorem key (bound : (Program.keyValue keyed valued).IsBound bindings) :
    keyed.IsBound bindings :=
  fun depth reads => bound depth (by simp [readsBound, reads])

theorem value (bound : (Program.keyValue keyed valued).IsBound bindings) :
    valued.IsBound bindings :=
  fun depth reads => bound depth (by simp [readsBound, reads])

theorem first
    (bound : (Program.buildRecord (field :: fields)).IsBound bindings) :
    field.2.IsBound bindings :=
  fun depth reads =>
    bound depth (by simp [readsBound, readsBoundInFields, reads])

theorem rest
    (bound : (Program.buildRecord (field :: fields)).IsBound bindings) :
    (Program.buildRecord fields).IsBound bindings := by
  intro depth reads
  have reads : readsBoundInFields depth fields = true := reads
  exact bound depth (by simp [readsBound, readsBoundInFields, reads])

theorem member (bound : (Program.buildRecord fields).IsBound bindings)
    (member : field ∈ fields) : field.2.IsBound bindings := by
  induction fields with
  | nil => cases member
  | cons first fields induction =>
      rcases List.mem_cons.mp member with rfl | later
      · exact bound.first
      · exact induction bound.rest later

theorem bind (bound : (Program.bind depth inner).IsBound bindings)
    (element : Json) :
    inner.IsBound (Function.update bindings depth (some element)) := by
  intro other reads
  by_cases same : other = depth
  · subst other
    rw [Function.update_self]
    rfl
  · rw [Function.update_of_ne same]
    exact bound other (by simp [readsBound, reads, Ne.symm same])

theorem parameter (bound : (Program.parameter depth inner).IsBound bindings) :
    inner.IsBound bindings :=
  fun other reads => bound other (by simp [readsBound, reads])

theorem element (bound : (Program.parameter depth inner).IsBound bindings) :
    ∃ element, bindings depth = some element :=
  Option.isSome_iff_exists.mp (bound depth (by simp [readsBound]))

end Program.IsBound

namespace Evaluate

section parts

variable {bindings : Nat → Option Json} {recorded : Pages → Prop}
  {expected : ExtractionError → Prop} {post : Json → Prop}

theorem mapItems_settles {filters : Nat} {evaluate : Json → Evaluate Json}
    {items : List Json}
    (each :
      ∀ item ∈ items,
        Settles bindings recorded expected (fun _ => True) (evaluate item))
    (index : Nat) :
    Settles bindings recorded expected (fun _ => True)
      (mapItems filters evaluate items index) := by
  induction items generalizing index with
  | nil => exact settles_pure trivial
  | cons item items induction =>
      unfold mapItems
      refine Settles.bind (settles_modify ?_ ?_ ?_) fun _ _ => ?_
      · exact fun _ => rfl
      · exact fun _ => rfl
      · exact fun _ kept => kept
      refine (settles_within (each item List.mem_cons_self)).bind fun _ _ => ?_
      refine settles_get.bind fun _ _ => ?_
      refine (induction
        (fun other member => each other (List.mem_cons_of_mem _ member)) _).bind
        fun _ _ => ?_
      exact settles_pure trivial

theorem insertEntry_settles {dictionary : Entries Json} {entry : Json}
    (shape : entry.IsEntry)
    (invalid : ∀ path found, expected (.invalidKey path found))
    (duplicate : ∀ path key, expected (.duplicateKey path key)) :
    Settles bindings recorded expected (fun _ => True)
      (insertEntry dictionary entry) := by
  rcases shape with rfl | ⟨key, value, rfl⟩
  · exact settles_pure trivial
  · have keyed :
        Settles bindings recorded expected (fun _ => True)
          (dictionaryKey key) := by
      cases key with
      | string key => exact settles_pure trivial
      | bool value => exact settles_pure trivial
      | number value => exact settles_pure trivial
      | null => exact settles_failAt fun path => invalid path _
      | array items => exact settles_failAt fun path => invalid path _
      | object members => exact settles_failAt fun path => invalid path _
    unfold insertEntry
    refine keyed.bind fun key _ => ?_
    split
    · exact settles_failAt fun path => duplicate path key
    · exact settles_pure trivial

theorem addEntries_settles {evaluate : Json → Evaluate Json} {items : List Json}
    (each :
      ∀ item ∈ items, Settles bindings recorded expected post (evaluate item))
    (insert : ∀ dictionary entry, post entry →
      Settles bindings recorded expected (fun _ => True)
        (insertEntry dictionary entry))
    (index : Nat) (dictionary : Entries Json) :
    Settles bindings recorded expected (fun _ => True)
      (addEntries evaluate items index dictionary) := by
  induction items generalizing index dictionary with
  | nil => exact settles_pure trivial
  | cons item items induction =>
      unfold addEntries
      refine (settles_within ((each item List.mem_cons_self).bind
        fun entry shape => insert dictionary entry shape)).bind fun _ _ => ?_
      exact induction
        (fun other member => each other (List.mem_cons_of_mem _ member)) _ _

theorem required_settles {action : Evaluate Json}
    (settles : Settles bindings recorded expected post action)
    (missing : ∀ path, expected (.absent path)) :
    Settles bindings recorded expected post (required action) := by
  unfold required
  refine Settles.bind (settles_modify ?_ ?_ ?_) fun _ _ => ?_
  · exact fun _ => rfl
  · exact fun _ => rfl
  · exact fun _ kept => kept
  refine settles.bind fun result holds => ?_
  split
  · refine settles_get.bind fun state _ => ?_
    have failed : Settles bindings recorded expected (fun _ => True)
        (throw (.absent (state.absentAt.getD state.trail).reverse) :
          Evaluate PUnit) := settles_throw (missing _)
    exact failed.bind fun _ _ => settles_pure holds
  · exact settles_pure holds

theorem recordPage_settles {id : SubqueryId} {keys : PageKeys}
    {connection : Json}
    (keeps : ∀ {pages path page}, Page.read connection keys path = .ok page →
      recorded pages → recorded (pages ++ [(id, page)]))
    (error : ∀ {path error}, Page.read connection keys path = .error error →
      expected error) :
    Settles bindings recorded expected (fun _ => True)
      (recordPage id keys connection) := by
  unfold recordPage
  refine settles_get.bind fun state _ => ?_
  cases state.pages.lookup? id with
  | some page => exact settles_pure trivial
  | none =>
      have read : Settles bindings recorded expected
          (fun page => ∃ path, Page.read connection keys path = .ok page)
          (atPath (Page.read connection keys)) :=
        settles_atPath (fun found => ⟨_, found⟩) error
      refine read.bind
        fun page found => settles_modify (fun _ => rfl) (fun _ => rfl) ?_
      obtain ⟨path, found⟩ := found
      exact fun _ kept => keeps found kept

theorem nodesOf_settles {given : Option AllNodes} {id : SubqueryId}
    {keys : PageKeys} {connection : Json} {found : Json → Prop}
    (replaced :
      ∀ nodes, given.bind (·.lookup? id) = some nodes → post (.array nodes))
    (member :
      Settles bindings recorded expected found (memberOf connection keys.nodes))
    (kept : given.bind (·.lookup? id) = none → ∀ nodes, found nodes →
      post (if nodes.isNull then .array [] else nodes))
    (keeps : ∀ {pages path page}, Page.read connection keys path = .ok page →
      recorded pages → recorded (pages ++ [(id, page)]))
    (error : ∀ {path error}, Page.read connection keys path = .error error →
      expected error) :
    Settles bindings recorded expected post
      (nodesOf given id keys connection) := by
  unfold nodesOf
  cases lookup : given.bind (·.lookup? id) with
  | some nodes => exact settles_pure (replaced nodes lookup)
  | none =>
      refine member.bind fun nodes holds => ?_
      cases given with
      | none =>
          exact (recordPage_settles keeps error).bind fun _ _ =>
            settles_pure (kept lookup nodes holds)
      | some given => exact settles_pure (kept lookup nodes holds)

end parts

/-! ### Parameters that are bound -/

/-- An error other than a parameter without a value. -/
def Bound (error : ExtractionError) : Prop :=
  ∀ path depth, error ≠ .unboundParameter path depth

variable {bindings : Nat → Option Json} {recorded : Pages → Prop}

mutual

theorem checkLeaf_bound (name : String) (kind : TypeKind) (value : Json)
    (wrapping : Wrapping) :
    Settles bindings recorded Bound (fun _ => True)
      (checkLeaf name kind value wrapping) := by
  have kindChecked : ∀ value,
      Settles bindings recorded Bound (fun _ => True)
        (checkKind name kind value) := by
    intro value
    unfold checkKind
    split
    · exact settles_pure trivial
    · exact settles_failAt fun _ _ _ same => by cases same
  have singleChecked : ∀ value,
      Settles bindings recorded Bound (fun _ => True)
        (checkSingle name kind value wrapping) := by
    intro value
    unfold checkSingle
    split
    · exact settles_failAt fun _ _ _ same => by cases same
    · exact kindChecked value
  cases value with
  | null =>
      unfold checkLeaf
      split
      · exact settles_failAt fun _ _ _ same => by cases same
      · exact settles_pure trivial
  | array items =>
      unfold checkLeaf
      cases wrapping.element? with
      | some element => exact checkItems_bound name kind items element 0
      | none => exact kindChecked _
  | bool value => simpa only [checkLeaf] using singleChecked _
  | number value => simpa only [checkLeaf] using singleChecked _
  | string value => simpa only [checkLeaf] using singleChecked _
  | object members => simpa only [checkLeaf] using singleChecked _

theorem checkItems_bound (name : String) (kind : TypeKind) (items : List Json)
    (wrapping : Wrapping) (index : Nat) :
    Settles bindings recorded Bound (fun _ => True)
      (checkItems name kind items wrapping index) := by
  cases items with
  | nil => exact settles_pure trivial
  | cons item items =>
      unfold checkItems
      refine (settles_within (checkLeaf_bound name kind item wrapping)).bind
        fun _ _ => ?_
      exact checkItems_bound name kind items wrapping _

end

theorem memberOf_bound (value : Json) (key : String) :
    Settles bindings recorded Bound
      (fun member => value.member? key = some member)
      (memberOf value key) := by
  refine settles_atPath ?_ ?_
  · intro path member found
    cases value with
    | object members =>
        have known : Entries.lookup? members key = some member := by
          cases inside : Entries.lookup? members key with
          | none => simp [inside] at found
          | some other => simpa [inside] using found
        exact known
    | null => cases found
    | bool value => cases found
    | number value => cases found
    | string value => cases found
    | array items => cases found
  intro path error failed
  split at failed
  · split at failed
    · cases failed
    · cases failed
      intro _ _ same
      cases same
  · cases failed
    intro _ _ same
    cases same
  · cases failed
    intro _ _ same
    cases same

theorem itemsOf_bound (value : Json) :
    Settles bindings recorded Bound (fun items => value = .array items)
      (itemsOf value) := by
  apply settles_atPath
  · intro path items found
    cases value with
    | array others =>
        cases found
        rfl
    | null => cases found
    | bool value => cases found
    | number value => cases found
    | string value => cases found
    | object members => cases found
  intro path error failed
  split at failed
  · cases failed
  · cases failed
    intro _ _ same
    cases same
  · cases failed
    intro _ _ same
    cases same

theorem readLeaf_bound (key : String) (type : TypeRef) (value : Json) :
    Settles bindings recorded Bound (fun _ => True)
      (readLeaf key type value) := by
  unfold readLeaf
  refine (memberOf_bound value key).bind fun leaf _ => settles_within ?_
  have checked : Settles bindings recorded Bound (fun _ => True)
      (do checkLeaf type.name type.kind leaf type.wrapping; pure leaf) :=
    (checkLeaf_bound type.name type.kind leaf type.wrapping).bind fun _ _ =>
      settles_pure trivial
  split
  · refine Settles.bind (settles_modify ?_ ?_ ?_) fun _ _ => checked
    · exact fun _ => rfl
    · exact fun _ => rfl
    · exact fun _ kept => kept
  · exact checked

theorem insertEntry_bound (dictionary : Entries Json) (entry : Json) :
    Settles bindings recorded Bound (fun _ => True)
      (insertEntry dictionary entry) := by
  by_cases shape : entry.IsEntry
  · refine insertEntry_settles shape ?_ ?_
    · intro _ _ _ _ same
      cases same
    · intro _ _ _ _ same
      cases same
  · unfold insertEntry
    split
    · exact absurd (Or.inl rfl) shape
    · exact absurd (Or.inr ⟨_, _, rfl⟩) shape
    · exact settles_failAt fun _ _ _ same => by cases same

theorem bind_error {α β : Type} {action : Except ExtractionError α}
    {next : α → Except ExtractionError β} {error : ExtractionError}
    (failed : (action >>= next) = .error error) :
    action = .error error ∨
      ∃ value, action = .ok value ∧ next value = .error error := by
  cases action with
  | error found =>
      obtain rfl := Except.error.inj failed
      exact Or.inl rfl
  | ok value => exact Or.inr ⟨value, rfl, failed⟩

theorem page_read_bound {connection : Json} {keys : PageKeys}
    {path : ResponsePath} {error : ExtractionError}
    (failed : Page.read connection keys path = .error error) :
    Bound error := by
  unfold Page.read at failed
  intro _ _ same
  subst error
  rcases bind_error failed with noObject | ⟨members, _, failed⟩
  · unfold Page.objectAt at noObject
    split at noObject <;> cases noObject
  rcases bind_error failed with noInfo | ⟨pageInfo, _, failed⟩
  · unfold Page.pageInfoAt at noInfo
    split at noInfo <;> cases noInfo
  rcases bind_error failed with noFlag | ⟨hasNextPage, _, failed⟩
  · unfold Page.hasNextPageAt at noFlag
    split at noFlag <;> cases noFlag
  rcases bind_error failed with noNodes | ⟨nodes, _, failed⟩
  · unfold Page.nodesAt at noNodes
    split at noNodes <;> cases noNodes
  · cases failed

theorem narrowed_bound {typeName : String} {mode : NarrowingMode}
    {evaluate : Json → Evaluate Json} {value : Json}
    (inside : value.typename? = some typeName →
      Settles bindings recorded Bound (fun _ => True) (evaluate value)) :
    Settles bindings recorded Bound (fun _ => True)
      (narrowed typeName mode evaluate value) := by
  unfold narrowed
  split
  · exact settles_absent trivial
  · exact settles_failAt fun _ _ _ same => by cases same
  · have named :
        Settles bindings recorded Bound
          (fun name => value.typename? = some name) (typenameOf value) := by
      unfold typenameOf
      split
      · rename_i name known
        exact settles_pure known
      · exact settles_failAt fun _ _ _ same => by cases same
    refine named.bind fun received known => ?_
    split
    · rename_i same _ _
      obtain rfl := of_decide_eq_true same
      refine Settles.bind (settles_modify ?_ ?_ ?_) fun _ _ => inside known
      · exact fun _ => rfl
      · exact fun _ => rfl
      · exact fun _ kept => kept
    · rename_i same _ _
      obtain rfl := of_decide_eq_true same
      exact inside known
    · exact settles_absent trivial
    · exact settles_failAt fun _ _ _ same => by cases same

theorem nodesOf_bound (given : Option AllNodes) (id : SubqueryId)
    (keys : PageKeys) (connection : Json)
    (records : Reading.IsKept recorded ⟨id, keys, connection⟩) :
    Settles bindings recorded Bound
      (fun nodes => Reading.nodes? given ⟨id, keys, connection⟩ = some nodes)
      (nodesOf given id keys connection) := by
  apply nodesOf_settles _ (memberOf_bound connection keys.nodes) _ records
    page_read_bound
  · intro nodes listed
    simp only [Reading.nodes?, listed]
  · intro unlisted nodes found
    simp only [Reading.nodes?, unlisted, found, Option.map_some]

mutual

/-- A program whose parameters are all bound never misses one.  What holds of
the recorded pages still holds if it is kept by recording the pages of the
connections the program comes to. -/
theorem program_settles (given : Option AllNodes) (program : Program)
    (bindings : Nat → Option Json)
    (bound : program.IsBound bindings) (value : Json)
    (records :
      ∀ {reading : Reading}, program.Reads given reading bindings value →
        Reading.IsKept recorded reading) :
    Settles bindings recorded Bound (fun _ => True)
      (Evaluate.program given program value) := by
  cases program with
  | field key inner =>
      unfold Evaluate.program
      exact (memberOf_bound value key).bind fun member found =>
        settles_within (program_settles given inner bindings bound member
          fun reads => records (.field found reads))
  | readScalar key type =>
      unfold Evaluate.program
      exact readLeaf_bound key type value
  | optional inner =>
      unfold Evaluate.program
      split
      · exact settles_absent trivial
      · rename_i present
        exact program_settles given inner bindings bound value
          fun reads =>
            records (.optional (Bool.eq_false_of_not_eq_true present) reads)
  | mapList filters inner =>
      unfold Evaluate.program
      refine (itemsOf_bound value).bind fun items list => ?_
      subst value
      refine (settles_isolated (mapItems_settles (fun item member =>
        program_settles given inner bindings bound item
          fun reads => records (.item member reads)) 0)).bind fun _ _ => ?_
      exact settles_pure trivial
  | narrow typeName mode inner =>
      unfold Evaluate.program
      exact narrowed_bound fun named =>
        program_settles given inner bindings bound value
          fun reads => records (.narrow named reads)
  | buildRecord fields =>
      unfold Evaluate.program
      exact (fieldPrograms_bound given fields bindings bound
        value fun field member =>
        fun reads =>
          records (.member member reads)).bind fun _ _ => settles_pure trivial
  | enforceSingle inner =>
      unfold Evaluate.program
      refine required_settles (program_settles given inner bindings bound value
        fun reads => records (.enforceSingle reads)) ?_
      intro _ _ _ same
      cases same
  | toDictionary entry =>
      unfold Evaluate.program
      refine (itemsOf_bound value).bind fun items list => ?_
      subst value
      refine (addEntries_settles (fun item member =>
        program_settles given entry bindings bound item
          fun reads => records (.entry member reads))
        (fun dictionary entry _ => insertEntry_bound dictionary entry) 0
          []).bind
        fun _ _ => ?_
      exact settles_pure trivial
  | keyValue key inner =>
      unfold Evaluate.program
      refine (program_settles given key bindings bound.key value
        fun reads => records (.key reads)).bind fun _ _ => ?_
      refine (program_settles given inner bindings bound.value value
        fun reads => records (.value reads)).bind fun _ _ => ?_
      exact settles_pure trivial
  | subquerySink id keys inner =>
      unfold Evaluate.program
      refine (nodesOf_bound given id keys value (records .here)).bind
        fun nodes known => ?_
      exact settles_within (program_settles given inner bindings bound nodes
        fun reads => records (.nodes known reads))
  | bind depth inner =>
      unfold Evaluate.program
      exact settles_binding
        (program_settles given inner _ (bound.bind value) value
          fun reads => records (.bind reads))
  | parameter depth inner =>
      unfold Evaluate.program
      refine settles_get.bind fun state found => ?_
      rw [found]
      obtain ⟨element, same⟩ := bound.element
      rw [same]
      exact program_settles given inner bindings bound.parameter element
        fun reads => records (.parameter same reads)

theorem fieldPrograms_bound (given : Option AllNodes)
    (fields : List (String × Program)) (bindings : Nat → Option Json)
    (bound : (Program.buildRecord fields).IsBound bindings) (value : Json)
    (records : ∀ field ∈ fields, ∀ {reading : Reading},
      field.2.Reads given reading bindings value →
        Reading.IsKept recorded reading) :
    Settles bindings recorded Bound (fun _ => True)
      (fieldPrograms given fields value) := by
  cases fields with
  | nil => exact settles_pure trivial
  | cons field fields =>
      obtain ⟨key, inner⟩ := field
      unfold fieldPrograms
      refine (program_settles given inner bindings bound.first value
        (records _ List.mem_cons_self)).bind fun _ _ => ?_
      refine (fieldPrograms_bound given fields bindings bound.rest value
        fun field member => records field (List.mem_cons_of_mem _ member)).bind
          fun _ _ => ?_
      exact settles_pure trivial

end

theorem program_bound (given : Option AllNodes) (program : Program)
    (bindings : Nat → Option Json) (bound : program.IsBound bindings)
    (value : Json) :
    Settles bindings (fun _ => True) Bound (fun _ => True)
      (Evaluate.program given program value) :=
  program_settles given program bindings bound value fun _ => fun _ _ => trivial

end Evaluate

end GraphPipeline
