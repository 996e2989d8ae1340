import GraphPipeline.Proofs.Answers
import GraphPipeline.Proofs.Contexts

/-!
# Walks carry the meaning of pipelines

While a pipeline is walked, the frames of its chain lead from the object of the
innermost scope to what the steps so far find on the graph.  Each place of the
data on the way answers the set of the chain's position for the object found
there.  A value that ends the pipeline is the JSON of what is found.
-/

namespace GraphPipeline

namespace Found

variable {Node : Type}

/-- The JSON of a field that is not an object or a list of objects. -/
theorem json?_field (graph : Graph) (name : String) (arguments : List Argument)
    (item : Option (Option (Item graph.Node))) :
    ((item.map one).bind (field graph name arguments)).bind json? =
      item.bind (Item.read (Item.onObject fun node =>
        (graph.field node name arguments).found.json?)) := by
  match item with
  | none => rfl
  | some none => rfl
  | some (some (.object _)) => rfl
  | some (some (.value _)) => rfl

theorem field_eq_project (graph : Graph) (name : String)
    (arguments : List Argument) (item : Option (Option (Item graph.Node))) :
    (item.map one).bind (field graph name arguments) =
      (item.map one).bind (project fun node =>
        some (graph.field node name arguments).found) := by
  cases item <;> rfl

/-- The entry of a dictionary, as a value. -/
def entryOf : Option (Json × Json) → Json
  | none => .null
  | some (key, value) => .array [key, value]

theorem foldlM_enter (pairs : List (Option (Json × Json)))
    (dictionary : Entries Json) :
    (pairs.map entryOf).foldlM Json.enter dictionary =
      pairs.reduceOption.foldlM (fun dictionary pair =>
        pair.1.keyText?.bind fun key =>
          if Entries.contains dictionary key then none
          else some (Entries.put dictionary key pair.2)) dictionary := by
  induction pairs generalizing dictionary with
  | nil => rfl
  | cons pair pairs induction =>
      cases pair with
      | none =>
          rw [List.reduceOption_cons_of_none, ← induction]
          rfl
      | some pair =>
          rw [List.reduceOption_cons_of_some, List.map_cons, List.foldlM_cons,
            List.foldlM_cons]
          congr 1
          funext dictionary
          exact induction dictionary

/-- The JSON of a dictionary is put together from the entries of the items. -/
theorem IsListed.json?_dictionary {found : Option (Found Node)}
    (listed : IsListed found) (pair : Node → Option (Json × Json)) :
    (found.bind (dictionary pair)).bind json? =
      found.bind (read objectOf (Item.onObject fun node =>
        (pair node).map fun pair => entryOf (some pair))) := by
  have entries : ∀ items : List (Option (Item Node)),
      items.mapM (Item.read (Item.onObject fun node =>
        (pair node).map fun pair => entryOf (some pair))) =
      (items.mapM
        (Item.follow (Item.onObject fun node => (pair node).map some))).map
        (List.map entryOf) := by
    intro items
    induction items with
    | nil => rfl
    | cons item items induction =>
        rw [List.mapM_cons, List.mapM_cons, induction]
        have here : Item.read (Item.onObject fun node =>
            (pair node).map fun pair => entryOf (some pair)) item =
          (Item.follow (Item.onObject fun node => (pair node).map some)
            item).map
            entryOf := by
          rcases item with _ | (node | value)
          · rfl
          · simp only [Item.read, Item.follow, Item.onObject, Option.map_map]
            rfl
          · rfl
        rw [here]
        cases Item.follow _ item with
        | none => rfl
        | some first =>
            cases items.mapM (Item.follow _) <;> rfl
  rcases found with _ | ((_ | item) | items)
  · rfl
  · rfl
  · exact absurd rfl (listed item)
  · simp only [Option.bind_some, read, entries, dictionary]
    cases items.mapM
      (Item.follow (Item.onObject fun node => (pair node).map some)) with
    | none => rfl
    | some pairs =>
        simp only [Option.map_some, Option.bind_some, objectOf, foldlM_enter,
          Option.bind_eq_bind]
        change _ = (dictionaryOf pairs.reduceOption).map Json.object
        cases dictionaryOf pairs.reduceOption <;> rfl

end Found

/-! ### Places of the data -/

/-- Some bindings and a value at hand stand for an object at a set: the value
answers the set, and whatever is bound less deep is bound as before. -/
def StandsAt (document : CompileState) (graph : Graph) (depth : Nat)
    (bindings : Nat → Option Json) (set : SetId) (inside : Nat → Option Json)
    (element : Json) (node : graph.Node) : Prop :=
  (∀ other, other < depth → inside other = bindings other) ∧
    document.selections.Answered graph set node element

/-- At the depth of every scope is bound an answer for its object, which is the
root of the graph or the element that goes by the name of the scope. -/
inductive Scopes.Hold (document : CompileState) (graph : Graph)
    (kind : OperationKind) :
    Scopes → Entries graph.Node → (Nat → Option Json) → Prop where
  | root {scope : Scope} {bindings : Nat → Option Json} {value : Json} :
      scope.parameter = none → bindings 0 = some value →
      document.selections.Answered graph scope.object.set (graph.root kind)
        value →
      Hold document graph kind [scope] [] bindings
  | inside {scope : Scope} {outer : Scopes} {elements : Entries graph.Node}
      {parameter : Parameter} {node : graph.Node} {bindings : Nat → Option Json}
      {value : Json} :
      scope.parameter = some parameter → bindings outer.length = some value →
      document.selections.Answered graph scope.object.set node value →
      Hold document graph kind outer elements bindings →
      Hold document graph kind (scope :: outer) ((parameter, node) :: elements)
        bindings

variable {document : CompileState} {graph : Graph} {kind : OperationKind}

namespace Scopes

variable {scopes : Scopes} {elements : Entries graph.Node}
  {bindings others : Nat → Option Json}

theorem Hold.of_agrees
    (hold : Hold document graph kind scopes elements bindings)
    (agrees : ∀ depth, depth < scopes.length → others depth = bindings depth) :
    Hold document graph kind scopes elements others := by
  induction hold with
  | root unnamed bound answered =>
      exact .root unnamed ((agrees 0 Nat.zero_lt_one).trans bound) answered
  | @inside scope outer elements parameter node bindings value named bound
      answered _ induction =>
      refine .inside named
        ((agrees outer.length (Nat.lt_succ_self _)).trans bound) answered
        (induction fun depth below => agrees depth (Nat.lt_succ_of_lt below))

/-- A source stands for the object whose answer is bound at its depth. -/
theorem Hold.resolve (hold : Hold document graph kind scopes elements bindings)
    {source : Source} (plain : source.operationKind?.all (· == kind) = true)
    {depth : Nat} {scope : Scope}
    (found : scopes.resolve? source = some (depth, scope)) :
    depth < scopes.length ∧ ∃ node value,
      Pipeline.startOn graph elements source = some node ∧
        bindings depth = some value ∧
        document.selections.Answered graph scope.object.set node value := by
  induction hold with
  | @root head bindings value unnamed bound answered =>
      cases source with
      | root other =>
          simp only [resolve?, Option.some.injEq, Prod.mk.injEq] at found
          obtain ⟨rfl, rfl⟩ := found
          obtain rfl : other = kind := by
            simpa [Source.operationKind?] using plain
          exact ⟨Nat.zero_lt_one, _, value, rfl, bound, answered⟩
      | parameter parameter => simp [resolve?, unnamed] at found
  | @inside head outer elements name node bindings value named bound answered
      hold induction =>
      cases source with
      | root other =>
          have later : resolve? outer (.root other) = some (depth, scope) := by
            cases hold with
            | root _ _ _ => simpa [resolve?] using found
            | inside _ _ _ _ => simpa [resolve?] using found
          obtain ⟨below, facts⟩ := induction later
          exact ⟨Nat.lt_succ_of_lt below, facts⟩
      | parameter parameter =>
          by_cases same : name = parameter
          · subst parameter
            simp only [resolve?, named, if_true, Option.some.injEq,
              Prod.mk.injEq] at found
            obtain ⟨rfl, rfl⟩ := found
            refine ⟨Nat.lt_succ_self _, node, value, ?_, bound, answered⟩
            simp [Pipeline.startOn, Entries.lookup?_cons]
          · have later :
                resolve? outer (.parameter parameter) =
                  some (depth, scope) := by
              simpa [resolve?, named, same] using found
            obtain ⟨below, object, answer, started, facts⟩ := induction later
            refine ⟨Nat.lt_succ_of_lt below, object, answer, ?_, facts⟩
            simp only [Pipeline.startOn, Entries.lookup?_cons, same, if_false]
            exact started

/-- The scopes hold, and the value at hand is the answer of the innermost
one. -/
structure Setting (document : CompileState) (graph : Graph)
    (kind : OperationKind) (scopes : Scopes) (elements : Entries graph.Node)
    (bindings : Nat → Option Json) (value : Json) : Prop where
  hold : scopes.Hold document graph kind elements bindings
  atHand : bindings scopes.innermostDepth = some value

/-- Inside of a projection, its element is bound and at hand. -/
theorem Setting.inside {value element : Json} {node : graph.Node} {set : SetId}
    (setting : Setting document graph kind scopes elements bindings value)
    (standing :
      StandsAt document graph scopes.length bindings set others element node)
    {scope : Scope} {parameter : Parameter}
    (named : scope.parameter = some parameter)
    (sameSet : scope.object.set = set) :
    Setting document graph kind (scope :: scopes)
      ((parameter, node) :: elements)
      (Function.update others scopes.length (some element)) element := by
  obtain ⟨agrees, answered⟩ := standing
  constructor
  · refine .inside named (Function.update_self ..) (sameSet ▸ answered)
      (setting.hold.of_agrees fun depth below => ?_)
    rw [Function.update_of_ne (Nat.ne_of_lt below)]
    exact agrees depth below
  · exact Function.update_self ..

end Scopes

/-! ### Fields -/

section fields

variable {depth : Nat} {bindings inside : Nat → Option Json} {set : SetId}
  {answer : Json} {resolved : Resolved graph.Node}

/-- Past the guard of a type, the answer to a value of objects is that of an
object. -/
theorem guard_lands {type : TypeRef} (composite : type.kind.isComposite = true)
    (single : type.wrapping.element? = none)
    (agrees : ∀ other, other < depth → inside other = bindings other)
    (typed : resolved.HasType type.kind type.wrapping)
    (answered :
      resolved.AnsweredBy (document.selections.Answered graph set) answer) :
    Lands (StandsAt document graph depth bindings set)
      (fillFrames (guardFrames type)) inside answer (some resolved.item) := by
  rcases typed.object_cases composite single answered with
    ⟨rfl, rfl, nullable⟩ | ⟨node, rfl, answered⟩
  · refine .absent fun program => ?_
    rw [fillFrames_guardFrames]
    have guarded : type.isNullable = true := by
      simp [TypeRef.isNullable, Wrapping.isNullable, nullable]
    rw [Program.guarded, if_pos guarded]
    exact .optional_null
  · refine .reaches ⟨agrees, answered⟩ fun {program result} yields => ?_
    rw [fillFrames_guardFrames, Program.guarded]
    split
    · exact yields.optional answered.isNull
    · exact yields

/-- Past the guard of a list type, what goes on from the items of the answer is
gathered. -/
theorem list_collects {type : TypeRef} {element : TypeRef}
    (composite : type.kind.isComposite = true)
    (elementOf : type.element? = some element)
    (single : element.element? = none)
    (agrees : ∀ other, other < depth → inside other = bindings other)
    (typed : resolved.HasType type.kind type.wrapping)
    (answered :
      resolved.AnsweredBy (document.selections.Answered graph set) answer)
    {wrap : Program → Program} {gather : List Json → Option Json}
    (combines : Combines wrap gather) :
    Found.IsListed (some resolved.found) ∧
      Collects (StandsAt document graph depth bindings set) gather
        (fun program =>
          fillFrames (guardFrames type)
            (wrap (fillFrames (guardFrames element) program)))
        inside answer (some resolved.found) := by
  obtain ⟨wrapping, wrapped, rfl⟩ := Option.map_eq_some_iff.mp elementOf
  have singleWrapping : wrapping.element? = none := by
    simpa [TypeRef.element?] using single
  rcases typed.list_cases wrapped answered with
    ⟨rfl, rfl, nullable⟩ | ⟨items, answers, rfl, rfl, each⟩
  · refine ⟨fun item same => by simp [Resolved.found] at same, ⟨fun _ => ?_⟩⟩
    rw [fillFrames_guardFrames]
    have guarded : type.isNullable = true := by
      simp [TypeRef.isNullable, Wrapping.isNullable, nullable]
    rw [Program.guarded, if_pos guarded]
    exact .optional_null
  · refine ⟨fun item same => by simp [Resolved.found] at same,
      ⟨fun {program valueOf} yields => ?_⟩⟩
    have results : List.Forall₂
        ((fillFrames (guardFrames { type with wrapping }) program).Computes
          inside) answers
          (items.map fun item => Item.read valueOf item.item) := by
      clear typed answered
      induction each with
      | nil => exact .nil
      | @cons item answer _ _ first _ induction =>
          have lands : Lands (StandsAt document graph depth bindings set)
              (fillFrames (guardFrames { type with wrapping })) inside answer
                (some item.item) :=
            guard_lands composite singleWrapping agrees first.1 first.2
          exact .cons (lands.yields yields) induction
    have gathered := combines.yields results
    have same : (items.map fun item => Item.read valueOf item.item).mapM id =
        (items.map Resolved.item).mapM (Item.read valueOf) := by
      rw [mapM_map, mapM_map]
      rfl
    rw [same] at gathered
    rw [fillFrames_guardFrames, Program.guarded]
    split
    · exact gathered.optional rfl
    · exact gathered

/-- Below a key, a context leads where it leads from the member of an object. -/
theorem Lands.field {stands : (Nat → Option Json) → Json → graph.Node → Prop}
    {context : Program → Program} {value member : Json} {key : String}
    {item : Option (Option (Item graph.Node))}
    (lands : Lands stands context inside member item)
    (found : value.member? key = some member) :
    Lands stands (fun program => .field key (context program)) inside value
      item := by
  cases lands with
  | fails yields => exact .fails fun program => (yields program).field found
  | absent yields => exact .absent fun program => (yields program).field found
  | reaches standing through =>
    exact .reaches standing fun inner => (through inner).field found

variable {definition : FieldDefinition} {arguments : List Argument}
  {parent : SetId} {node : graph.Node} {value : Json}

/-- The frames of a selected field lead to the object, or the objects, it
resolves to. -/
theorem field_carries
    (formed : document.WellFormed fun name => isGraphqlName name = true)
    (nameOf : isGraphqlName definition.name = true) {selected : SelectedField}
    (holds : document.selections.Holds parent definition arguments selected)
    (child : selected.child = some set)
    (standing :
      StandsAt document graph depth bindings parent inside value node) :
    (definition.type.element? = none →
      Carries (StandsAt document graph depth bindings set)
        (.field selected.key :: guardFrames definition.type) none inside value
        (some (graph.field node definition.name arguments).found)) ∧
    (∀ element,
      definition.type.element? = some element → element.isList = false →
      Carries (StandsAt document graph depth bindings set)
        ((.field selected.key :: guardFrames definition.type) ++
          .mapList 0 :: guardFrames element)
        (some (Frame.field selected.key :: guardFrames definition.type).length)
          inside value
        (some (graph.field node definition.name arguments).found)) := by
  obtain ⟨agrees, answered⟩ := standing
  have composite : definition.type.kind.isComposite = true := by
    rw [← holds.isSome_child formed.selections, child]
    rfl
  obtain ⟨answer, found, typed, matching⟩ :=
    answered.selected formed.selections nameOf holds
  rw [child] at matching
  constructor
  · intro single
    have singleWrapping : definition.type.wrapping.element? = none := by
      simpa [TypeRef.element?] using single
    have lands :
        Lands (StandsAt document graph depth bindings set) _ inside answer _ :=
      guard_lands composite singleWrapping agrees typed matching
    refine ⟨some (graph.field node definition.name arguments).item, ?_,
      lands.field found⟩
    rcases typed.object_cases composite singleWrapping matching with
      ⟨same, _⟩ | ⟨object, same, _⟩
    · rw [same]
      rfl
    · rw [same]
      rfl
  · intro element elementOf noList
    have single := element?_eq_none_of_isList noList
    refine ⟨(list_collects composite elementOf single agrees typed matching
      mapList_combines).1, fun combines => ?_⟩
    have collects :
        Collects (StandsAt document graph depth bindings set) _ _ inside answer
          _ :=
      (list_collects composite elementOf single agrees typed matching
        combines).2
    rw [fillList_length]
    exact ⟨fun each => (collects.yields each).field found⟩

/-- A selected leaf yields the value the field resolves to. -/
theorem field_yields
    (formed : document.WellFormed fun name => isGraphqlName name = true)
    (nameOf : isGraphqlName definition.name = true) {selected : SelectedField}
    (holds : document.selections.Holds parent definition arguments selected)
    (child : selected.child = none)
    (standing :
      StandsAt document graph depth bindings parent inside value node) :
    (Program.readScalar selected.key definition.type).Computes inside value
      (graph.field node definition.name arguments).found.json? := by
  obtain ⟨answer, found, typed, matching⟩ :=
    standing.2.selected formed.selections nameOf holds
  rw [child] at matching
  rw [matching.json?_found]
  exact .readScalar found (matching.admits typed)

end fields

/-! ### Chains -/

namespace Chain

/-- The program of a chain, if it has one, yields the JSON of what is found. -/
structure Ends (document : CompileState) (graph : Graph) (kind : OperationKind)
    (scopes : Scopes) (chain : Chain)
    (meaning : Entries graph.Node → Option (Found graph.Node)) : Prop where
  yields : ∀ {elements bindings value program},
    Scopes.Setting document graph kind scopes elements bindings value →
      chain.finish = .ok program →
        program.Computes bindings value ((meaning elements).bind Found.json?)

/-- The chain can be gone on from: at an object, its frames lead to what is
found. -/
structure Continues (document : CompileState) (graph : Graph)
    (kind : OperationKind) (scopes : Scopes) (chain : Chain)
    (meaning : Entries graph.Node → Option (Found graph.Node)) : Prop
    extends Ends document graph kind scopes chain meaning where
  framed : Framed chain.frames chain.list
  unenforced : chain.enforceSingle = false
  noDictionary : ∀ entry, chain.position ≠ .dictionary entry
  carries :
    ∀ {object elements bindings value}, chain.position = .object object →
      Scopes.Setting document graph kind scopes elements bindings value →
        Carries (StandsAt document graph scopes.length bindings object.set)
          chain.frames chain.list bindings value (meaning elements)

variable {scopes : Scopes} {chain : Chain}
  {meaning others : Entries graph.Node → Option (Found graph.Node)}

theorem continues_of_object {object : ObjectPosition}
    (atObject : chain.position = .object object)
    (framed : Framed chain.frames chain.list)
    (unenforced : chain.enforceSingle = false)
    (carries : ∀ {elements bindings value},
      Scopes.Setting document graph kind scopes elements bindings value →
        Carries (StandsAt document graph scopes.length bindings object.set)
          chain.frames chain.list bindings value (meaning elements)) :
    chain.Continues document graph kind scopes meaning where
  yields := by
    intro elements bindings value program _ finished
    unfold Chain.finish at finished
    simp [atObject] at finished
  framed := framed
  unenforced := unenforced
  noDictionary := by
    intro entry same
    rw [atObject] at same
    cases same
  carries := by
    intro other elements bindings value same setting
    rw [atObject] at same
    obtain rfl := Position.object.inj same
    exact carries setting

theorem continues_of_value {program : Program} {isList : Bool}
    (atValue : chain.position = .value program isList)
    (framed : Framed chain.frames chain.list)
    (unenforced : chain.enforceSingle = false)
    (yields : ∀ {elements bindings value},
      Scopes.Setting document graph kind scopes elements bindings value →
        (fillFrames chain.frames program).Computes bindings value
          ((meaning elements).bind Found.json?)) :
    chain.Continues document graph kind scopes meaning where
  yields := by
    intro elements bindings value filled setting finished
    unfold Chain.finish at finished
    simp only [atValue, unenforced, Bool.false_eq_true, if_false,
      Except.ok.injEq] at finished
    subst filled
    exact yields setting
  framed := framed
  unenforced := unenforced
  noDictionary := by
    intro entry same
    rw [atValue] at same
    cases same
  carries := by
    intro object elements bindings value same _
    rw [atValue] at same
    cases same

/-- A chain that can be gone on from at a value, with the program it ends in. -/
theorem Continues.finish_value
    (continues : chain.Continues document graph kind scopes meaning)
    {program : Program} {isList : Bool}
    (atValue : chain.position = .value program isList) :
    chain.finish = .ok (fillFrames chain.frames program) := by
  unfold Chain.finish
  simp [atValue, continues.unenforced]

end Chain

/-! ### Steps -/

section steps

variable {scopes : Scopes} {chain next : Chain}
  {meaning : Entries graph.Node → Option (Found graph.Node)}

theorem selectsField_continues
    (formed : document.WellFormed fun name => isGraphqlName name = true)
    {field : FieldDefinition} (nameOf : isGraphqlName field.name = true)
    {arguments : List Argument}
    (selects : Compile.SelectsField document chain field arguments false next)
    (continues : chain.Continues document graph kind scopes meaning) :
    next.Continues document graph kind scopes fun elements =>
      (meaning elements).bind
        (Found.field graph field.name (Argument.written arguments)) := by
  cases selects with
  | @plain object selected _ atObject noList holds advanced =>
      have carries : ∀ {elements bindings value},
          Scopes.Setting document graph kind scopes elements bindings value →
            Carries (StandsAt document graph scopes.length bindings object.set)
              chain.frames none bindings value (meaning elements) := by
        intro elements bindings value setting
        rw [← noList]
        exact continues.carries atObject setting
      have unenforced := continues.unenforced
      unfold Compile.advance at advanced
      cases child : selected.child with
      | none =>
          simp only [child, Except.ok.injEq] at advanced
          subst next
          refine Chain.continues_of_value rfl continues.framed unenforced
            fun setting => ?_
          obtain ⟨item, same, lands⟩ := carries setting
          rw [same, Found.json?_field]
          exact lands.yields
            fun standing => field_yields formed nameOf holds child standing
      | some set =>
          have below : ∀ {elements bindings value more innerList},
              Scopes.Setting document graph kind scopes elements bindings
                value →
                (∀ {inside element node},
                  StandsAt document graph scopes.length bindings object.set
                    inside element node →
                  Carries (StandsAt document graph scopes.length bindings set)
                    more innerList inside element
                    (some (graph.field node field.name
                      (Argument.written arguments)).found)) →
                  Carries (StandsAt document graph scopes.length bindings set)
                    (chain.frames ++ more)
                      (innerList.map (chain.frames.length + ·)) bindings
                    value ((meaning elements).bind
                      (Found.field graph field.name
                        (Argument.written arguments))) := by
            intro elements bindings value more innerList setting rest
            obtain ⟨item, same, lands⟩ := carries setting
            rw [same, Found.field_eq_project, ← same]
            exact (carries setting).project Framed.none rest (.inl rfl)
          cases elementOf : field.type.element? with
          | none =>
              simp only [child, elementOf, guardNull_eq, Chain.push,
                List.append_assoc, List.singleton_append,
                Except.ok.injEq] at advanced
              subst next
              refine Chain.continues_of_object rfl (continues.framed.append _)
                unenforced fun setting => ?_
              simp only [noList]
              exact below setting fun standing =>
                (field_carries formed nameOf holds child standing).1 elementOf
          | some element =>
              simp only [child, elementOf, guardNull_eq, mapList_eq, Chain.push,
                List.append_assoc, List.singleton_append] at advanced
              split at advanced
              · cases advanced
              · rename_i single
                have noLists := Bool.eq_false_of_not_eq_true single
                obtain rfl := Except.ok.inj advanced
                refine Chain.continues_of_object rfl ?_ unenforced
                  fun setting => ?_
                · rw [← List.append_assoc]
                  exact Framed.length _ _
                · simp only [List.length_append]
                  exact below setting fun standing =>
                    (field_carries formed nameOf holds child standing).2 element
                      elementOf noLists

theorem cast_continues
    (formed : document.WellFormed fun name => isGraphqlName name = true)
    {typeName : String}
    (narrows : Compile.Narrows document chain typeName .cast next)
    (continues : chain.Continues document graph kind scopes meaning) :
    next.Continues document graph kind scopes fun elements =>
      (meaning elements).bind (Found.cast graph typeName) := by
  cases narrows with
  | @mk object set atObject _ _ found required =>
      have uncounted : chain.counted .cast = chain := by
        unfold Chain.counted
        split <;> simp_all
      unfold Chain.narrowedTo
      rw [uncounted]
      refine Chain.continues_of_object rfl (continues.framed.append _)
        continues.unenforced fun setting => ?_
      refine (continues.carries atObject setting).each continues.framed
        fun standing => ?_
      obtain ⟨agrees, answered⟩ := standing
      have typed := answered.typename? formed.selections required
      simp only [Item.onObject]
      split
      · rename_i same
        exact .reaches
          ⟨agrees, answered.fragment formed.selections found same⟩ fun yields =>
          .cast typed (fun _ => yields) fun different => absurd same different
      · rename_i different
        exact .fails fun program =>
          .cast typed (fun same => absurd same different) fun _ => rfl

/-- A value that is made of the element of a projection. -/
theorem projected_continues
    {others : Entries graph.Node → Option (Found graph.Node)}
    {inside : Entries graph.Node → graph.Node → Option Json}
    {object : ObjectPosition} {program : Program} {isList : Bool}
    (continues : chain.Continues document graph kind scopes meaning)
    (atObject : chain.position = .object object)
    (yields : ∀ {elements bindings value bound element node},
      Scopes.Setting document graph kind scopes elements bindings value →
        StandsAt document graph scopes.length bindings object.set bound element
          node →
          program.Computes (Function.update bound scopes.length (some element))
            element
            (inside elements node))
    (same : ∀ elements, (others elements).bind Found.json? =
      (meaning elements).bind
        (Found.read Found.arrayOf (Item.onObject (inside elements)))) :
    ({ chain with
        position := .value (program.bindIfRead scopes.length) isList } :
      Chain).Continues document graph kind scopes others := by
  refine Chain.continues_of_value rfl continues.framed continues.unenforced
    fun setting => ?_
  rw [same]
  exact ((continues.carries atObject setting).collects continues.framed).yields
    fun standing => (yields setting standing).bindIfRead

/-- A projection that goes on inside of its element. -/
theorem continued_continues {object : ObjectPosition} {parameter : Parameter}
    {last : Chain} {inside : Entries graph.Node → Option (Found graph.Node)}
    (continues : chain.Continues document graph kind scopes meaning)
    (atObject : chain.position = .object object)
    (inner :
      last.Continues document graph kind
        (chain.scope parameter object :: scopes) inside)
    (oneList : chain.list = none ∨ last.list = none) :
    (chain.continued scopes.length last).Continues document graph kind scopes
      fun elements => (meaning elements).bind
        (Found.project fun node => inside ((parameter, node) :: elements)) := by
  have framed : Framed (chain.continued scopes.length last).frames
      (chain.continued scopes.length last).list := by
    unfold Chain.continued Chain.under
    cases list : chain.list with
    | none => exact inner.framed.under _
    | some index =>
        have outer := continues.framed
        rw [list] at outer
        rw [List.append_assoc]
        exact outer.append _
  cases position : last.position with
  | object object =>
      refine Chain.continues_of_object position framed inner.unenforced
        fun setting => ?_
      have sameList :
          last.list.map
            ((chain.frames ++ [Frame.bind scopes.length]).length + ·) =
            (last.list.map ([Frame.bind scopes.length].length + ·)).map
              (chain.frames.length + ·) := by
        cases last.list <;> simp [Nat.add_assoc]
      simp only [Chain.continued, Chain.under]
      rw [sameList, List.append_assoc]
      refine (continues.carries atObject setting).project continues.framed
        (fun standing => ?_) ?_
      · refine ((inner.carries position
          (setting.inside standing rfl rfl)).bind).mono
          fun {bound element node} further => ⟨fun other below => ?_, further.2⟩
        rw [further.1 other (Nat.lt_succ_of_lt below),
          Function.update_of_ne (Nat.ne_of_lt below)]
        exact standing.1 other below
      · exact oneList.imp_right fun none => by rw [none]; rfl
  | value program isList =>
      refine Chain.continues_of_value position framed inner.unenforced
        fun setting => ?_
      have collects :=
        (continues.carries atObject setting).collects continues.framed
      simp only [Chain.continued, Chain.under]
      rw [List.append_assoc, fillFrames_append, Found.json?_project]
      exact collects.yields fun standing =>
        (inner.yields (setting.inside standing rfl rfl)
          (inner.finish_value position)).bindIfRead
  | dictionary entry => exact absurd position (inner.noDictionary entry)

/-- A required value. -/
theorem required_ends
    (continues : chain.Continues document graph kind scopes meaning) :
    ({ chain with enforceSingle := true } : Chain).Ends document graph kind
      scopes fun elements => (meaning elements).bind Found.required := by
  constructor
  intro elements bindings value program setting finished
  cases position : chain.position with
  | object object => simp [Chain.finish, position] at finished
  | dictionary entry => exact absurd position (continues.noDictionary entry)
  | value inner isList =>
      simp only [Chain.finish, position, if_true, Except.ok.injEq] at finished
      subst program
      rw [Found.json?_required]
      exact (continues.yields setting
        (continues.finish_value position)).enforceSingle

/-- A dictionary of the objects of a list. -/
theorem dictionary_ends {object : ObjectPosition} {index : Nat}
    {keyProgram : Program} {valueProgram : Program}
    {keyOf valueOf : Entries graph.Node → graph.Node → Option Json}
    (continues : chain.Continues document graph kind scopes meaning)
    (listed : chain.list = some index)
    (atObject : chain.position = .object object)
    (yields : ∀ {elements bindings value bound element node},
      Scopes.Setting document graph kind scopes elements bindings value →
        StandsAt document graph scopes.length bindings object.set bound element
          node →
          keyProgram.Computes
            (Function.update bound scopes.length (some element)) element
              (keyOf elements node) ∧
            valueProgram.Computes
              (Function.update bound scopes.length (some element)) element
              (valueOf elements node)) :
    ({ chain with
        position := .dictionary
          ((Program.keyValue keyProgram valueProgram).bindIfRead
            scopes.length) } :
      Chain).Ends document graph kind scopes fun elements =>
        (meaning elements).bind (Found.dictionary fun node =>
          (keyOf elements node).bind fun key =>
            (valueOf elements node).map fun value => (key, value)) := by
  constructor
  intro elements bindings value program setting finished
  unfold Chain.finish at finished
  simp only [continues.unenforced, listed, Option.getD_some, Bool.false_eq_true,
    if_false, Except.ok.injEq] at finished
  have carries := continues.carries atObject setting
  rw [listed] at carries
  rw [carries.1.json?_dictionary, ← finished]
  refine (carries.2 toDictionary_combines).yields
    fun {bound element node} standing => ?_
  obtain ⟨keyed, valued⟩ := yields setting standing
  have paired : ∀ first second : Option Json,
      (first.bind fun key => second.map fun value => (key, value)).map
          (fun pair => Found.entryOf (some pair)) =
        first.bind fun key => second.map fun value => .array [key, value] := by
    intro first second
    cases first <;> cases second <;> rfl
  simp only [Item.onObject]
  rw [paired]
  exact (keyed.keyValue valued).bindIfRead

/-- Where a pipeline starts. -/
theorem start_continues {source : Source} {depth : Nat} {scope : Scope}
    (plain : source.operationKind?.all (· == kind) = true)
    (resolved : scopes.resolve? source = some (depth, scope)) :
    (Chain.start [] scopes depth scope).Continues document graph kind
      scopes fun elements =>
      (Pipeline.startOn graph elements source).map
        fun node => .one (some (.object node)) := by
  refine Chain.continues_of_object rfl Framed.none rfl
    fun {elements bindings value} setting => ?_
  obtain ⟨below, node, element, started, bound, answered⟩ :=
    setting.hold.resolve plain resolved
  refine ⟨some (some (.object node)), by rw [started]; rfl, ?_⟩
  unfold Chain.start
  split
  · exact .reaches ⟨fun _ _ => rfl, answered⟩
      fun inner => .parameter bound inner
  · rename_i innermost
    have sameDepth : depth = scopes.innermostDepth := by
      unfold Scopes.innermostDepth at innermost ⊢
      omega
    obtain rfl : element = value := by
      rw [sameDepth, setting.atHand] at bound
      exact (Option.some.inj bound).symm
    exact .reaches ⟨fun _ _ => rfl, answered⟩ fun inner => inner

end steps

/-! ### Whole pipelines -/

theorem Pipeline.head?_isAllPages {steps : List Step}
    (plain : Pipeline.stepsArePlain kind steps = true) :
    steps.head?.any Step.isAllPages = false := by
  cases steps with
  | nil => rfl
  | cons step steps =>
      simp only [Pipeline.stepsArePlain, Bool.and_eq_true] at plain
      cases step with
      | allPages nodes => simp [Pipeline.stepIsPlain] at plain
      | _ => rfl

theorem Pipeline.keys_membersOn {fields : List (String × Pipeline)}
    {elements : Entries graph.Node} {members : List (String × Json)}
    (found : Pipeline.membersOn graph fields elements = some members) :
    Entries.keys members = Entries.keys fields := by
  induction fields generalizing members with
  | nil =>
      obtain rfl := Option.some.inj found
      rfl
  | cons field fields induction =>
      obtain ⟨key, pipeline⟩ := field
      unfold Pipeline.membersOn at found
      obtain ⟨value, _, later⟩ := Option.bind_eq_some_iff.mp found
      obtain ⟨others, foundOthers, rfl⟩ := Option.map_eq_some_iff.mp later
      simp only [Entries.keys, List.map_cons, List.cons.injEq, true_and]
      exact induction foundOthers

theorem Pipeline.bind_foundBySteps_nil (elements : Entries graph.Node)
    (found : Option (Found graph.Node)) :
    found.bind (Pipeline.foundBySteps graph [] elements) = found := by
  cases found <;> rfl

mutual

/-- The chain of a pipeline ends in what the pipeline finds, and can be gone on
from if the pipeline does not end in a terminal step. -/
theorem walks_mean {scopes : Scopes} {chain : Chain} (pipeline : Pipeline)
    (formed : document.WellFormed fun name => isGraphqlName name = true)
    (walks : Compile.Walks document scopes pipeline chain)
    (each : pipeline.EachField fun field _ => isGraphqlName field.name = true)
    (plain : pipeline.isPlain kind = true) :
    chain.Ends document graph kind scopes (pipeline.foundOn graph) ∧
      (pipeline.endsTerminal = false →
        chain.Continues document graph kind scopes
          (pipeline.foundOn graph)) := by
  cases pipeline with
  | mk source steps =>
      simp only [Pipeline.isPlain, Bool.and_eq_true] at plain
      cases walks with
      | mk resolved walks =>
          have meant := walksSteps_mean steps formed walks each plain.2
            (start_continues plain.1 resolved)
          have same :
              (fun elements =>
                ((Pipeline.startOn graph elements source).map
                  fun node => Found.one (some (Item.object node))).bind
                  (Pipeline.foundBySteps graph steps elements)) =
              (Pipeline.mk source steps).foundOn graph := by
            funext elements
            rw [Pipeline.foundOn, Option.bind_map]
            rfl
          rw [same] at meant
          exact meant
termination_by structural pipeline

theorem walksSteps_mean {scopes : Scopes} {chain last : Chain}
    {meaning : Entries graph.Node → Option (Found graph.Node)}
    (steps : List Step)
    (formed : document.WellFormed fun name => isGraphqlName name = true)
    (walks : Compile.WalksSteps document scopes steps chain last)
    (each :
      Pipeline.EachFieldOfSteps (fun field _ => isGraphqlName field.name = true)
        steps)
    (plain : Pipeline.stepsArePlain kind steps = true)
    (continues : chain.Continues document graph kind scopes meaning) :
    (last.Ends document graph kind scopes fun elements =>
        (meaning elements).bind (Pipeline.foundBySteps graph steps elements)) ∧
      (steps.getLast?.any Step.isTerminal = false →
        last.Continues document graph kind scopes fun elements =>
          (meaning elements).bind
            (Pipeline.foundBySteps graph steps elements)) := by
  cases steps with
  | nil =>
      cases walks
      simp only [Pipeline.bind_foundBySteps_nil]
      exact ⟨continues.toEnds, fun _ => continues⟩
  | cons step rest =>
      simp only [Pipeline.stepsArePlain, Bool.and_eq_true] at plain
      cases walks with
      | @cons _ _ _ _ next _ terminal first others =>
          rw [Pipeline.head?_isAllPages plain.2] at first
          obtain ⟨nextEnds, nextContinues⟩ :=
            walksStep_mean step formed first each.1 plain.1 continues
          have same : (fun elements => (meaning elements).bind
              (Pipeline.foundBySteps graph (step :: rest) elements)) =
              fun elements => ((meaning elements).bind
                (Pipeline.foundByStep graph step elements)).bind
                  (Pipeline.foundBySteps graph rest elements) := by
            funext elements
            rw [Option.bind_assoc]
            rfl
          rw [same]
          cases ended : step.isTerminal with
          | false =>
              have unchanged : next.endedBy step = next := by
                simp [Chain.endedBy, ended]
              rw [unchanged] at others
              obtain ⟨ends, goesOn⟩ :=
                walksSteps_mean rest formed others each.2 plain.2
                  (nextContinues ended)
              refine ⟨ends, fun unended => goesOn ?_⟩
              cases rest with
              | nil => rfl
              | cons head tail => simpa [List.getLast?_cons_cons] using unended
          | true =>
              have changed :
                  next.endedBy step =
                    { next with terminal := step.reducer? } := by
                simp [Chain.endedBy, ended]
              rw [changed] at others
              cases rest with
              | nil =>
                  cases others
                  simp only [Pipeline.bind_foundBySteps_nil]
                  refine ⟨⟨nextEnds.yields⟩, fun unended => ?_⟩
                  simp [ended] at unended
              | cons head tail =>
                  cases others with
                  | cons unended _ _ =>
                    exact absurd unended (Step.reducer?_of_isTerminal ended)
termination_by structural steps

theorem walksStep_mean {scopes : Scopes} {chain next : Chain}
    {meaning : Entries graph.Node → Option (Found graph.Node)} (step : Step)
    (formed : document.WellFormed fun name => isGraphqlName name = true)
    (walks : Compile.WalksStep document scopes step false chain next)
    (each :
      Pipeline.EachFieldOfStep (fun field _ => isGraphqlName field.name = true)
        step)
    (plain : Pipeline.stepIsPlain kind step = true)
    (continues : chain.Continues document graph kind scopes meaning) :
    (next.Ends document graph kind scopes fun elements =>
        (meaning elements).bind (Pipeline.foundByStep graph step elements)) ∧
      (step.isTerminal = false →
        next.Continues document graph kind scopes fun elements =>
          (meaning elements).bind
            (Pipeline.foundByStep graph step elements)) := by
  have both : (next.Continues document graph kind scopes fun elements =>
      (meaning elements).bind (Pipeline.foundByStep graph step elements)) →
        (next.Ends document graph kind scopes fun elements =>
            (meaning elements).bind
              (Pipeline.foundByStep graph step elements)) ∧
          (step.isTerminal = false →
            next.Continues document graph kind scopes fun elements =>
              (meaning elements).bind
                (Pipeline.foundByStep graph step elements)) :=
    fun continues => ⟨continues.toEnds, fun _ => continues⟩
  cases step with
  | property field =>
      cases walks with
      | property selects =>
        exact both (selectsField_continues formed each selects continues)
  | call field arguments =>
      cases walks with
      | call selects =>
        exact both (selectsField_continues formed each selects continues)
  | allPages nodes => simp [Pipeline.stepIsPlain] at plain
  | filter typeName => simp [Pipeline.stepIsPlain] at plain
  | cast typeName =>
      cases walks with
      | cast narrows => exact both (cast_continues formed narrows continues)
  | single =>
      cases walks
      exact ⟨required_ends continues, fun unended => by cases unended⟩
  | singleOrDefault =>
      cases walks
      have unchanged :
          ({ chain with enforceSingle := false } : Chain) = chain := by
        rw [← continues.unenforced]
      refine both ?_
      rw [unchanged]
      simp only [Pipeline.foundByStep, Option.bind_fun_some]
      exact continues
  | toList =>
      cases walks
      refine both ?_
      simp only [Pipeline.foundByStep, Option.bind_fun_some]
      exact continues
  | record parameter fields =>
      cases walks with
      | @record _ _ _ _ _ object programs atObject compiled =>
          simp only [Pipeline.stepIsPlain, Bool.and_eq_true,
            decide_eq_true_eq] at plain
          refine both (projected_continues continues atObject
            (fun {elements bindings value bound element node} setting
              standing => ?_)
            fun elements => Found.json?_record _ _)
          have inside : Scopes.Setting document graph kind
              (chain.scope parameter object :: scopes)
                ((parameter, node) :: elements) _ _ :=
            setting.inside standing rfl rfl
          have yields := Program.Computes.buildRecord
            (walksFields_mean fields formed compiled each plain.2 inside)
          cases found :
              Pipeline.membersOn graph fields
                ((parameter, node) :: elements) with
          | none =>
              rw [found] at yields
              exact yields
          | some members =>
              have distinct : (Entries.keys members).Nodup := by
                rw [Pipeline.keys_membersOn found]
                exact plain.1
              simpa [found, Entries.ofAssignments_eq distinct] using yields
  | value parameter inner =>
      cases walks with
      | valueEnded atObject ended walks finished =>
          obtain ⟨ends, _⟩ := walks_mean inner formed walks each plain
          exact both (projected_continues continues atObject
            (fun setting standing =>
              ends.yields (setting.inside standing rfl rfl) finished)
            fun elements => Found.json?_project _ _)
      | valueContinued atObject ended walks oneList =>
          obtain ⟨_, goesOn⟩ := walks_mean inner formed walks each plain
          exact both (continued_continues continues atObject (goesOn ended)
            oneList)
  | toDictionary parameter key value =>
      cases walks with
      | @toDictionary _ _ _ _ _ _ keyChain valueChain index object keyProgram
          valueProgram listed atObject walksKey finishedKey walksValue
          finishedValue =>
          simp only [Pipeline.stepIsPlain, Bool.and_eq_true] at plain
          obtain ⟨keyEnds, _⟩ := walks_mean key formed walksKey each.1 plain.1
          obtain ⟨valueEnds, _⟩ :=
            walks_mean value formed walksValue each.2 plain.2
          refine ⟨dictionary_ends continues listed atObject
              fun setting standing => ?_, fun unended => by cases unended⟩
          have inside : Scopes.Setting document graph kind
              (chain.scope parameter object :: scopes) _ _ _ :=
            setting.inside standing rfl rfl
          exact ⟨keyEnds.yields inside finishedKey,
            valueEnds.yields inside finishedValue⟩
termination_by structural step

theorem walksFields_mean {scopes : Scopes} {programs : List (String × Program)}
    (fields : List (String × Pipeline))
    (formed : document.WellFormed fun name => isGraphqlName name = true)
    (walks : Compile.WalksFields document scopes fields programs)
    (each :
      Pipeline.EachFieldOfRecord
        (fun field _ => isGraphqlName field.name = true) fields)
    (plain : Pipeline.fieldsArePlain kind fields = true)
    {elements : Entries graph.Node} {bindings : Nat → Option Json}
    {value : Json}
    (setting :
      Scopes.Setting document graph kind scopes elements bindings value) :
    Program.FieldsCompute programs bindings value
      (Pipeline.membersOn graph fields elements) := by
  cases fields with
  | nil =>
      cases walks
      exact .nil
  | cons field fields =>
      obtain ⟨key, pipeline⟩ := field
      simp only [Pipeline.fieldsArePlain, Bool.and_eq_true] at plain
      cases walks with
      | cons walks finished others =>
          have first :=
            (walks_mean pipeline formed walks each.1 plain.1).1.yields setting
              finished
          exact .cons first
            (walksFields_mean fields formed others each.2 plain.2 setting)
termination_by structural fields

end

end GraphPipeline
