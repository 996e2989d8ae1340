import GraphPipeline.Proofs.Compile.Fitting

/-!
# Sinks of programs

A compilation puts a sink into the program when it adds a connection to its
document, and keeps the sinks in order while it puts the program together.  So a
program has one sink for each connection, and they are in the order of the
connections.
-/

namespace GraphPipeline

/-- The connection a sink reads, with the response keys it reads it by. -/
abbrev Sink := SubqueryId × PageKeys

namespace Program

mutual

/-- The sinks of a program, an outer one before those inside of it. -/
def sinks : Program → List Sink
  | .field _ inner => inner.sinks
  | .readScalar _ _ => []
  | .optional inner => inner.sinks
  | .mapList _ inner => inner.sinks
  | .narrow _ _ inner => inner.sinks
  | .buildRecord fields => sinksOfFields fields
  | .enforceSingle inner => inner.sinks
  | .toDictionary entry => entry.sinks
  | .keyValue key value => key.sinks ++ value.sinks
  | .subquerySink id keys inner => (id, keys) :: inner.sinks
  | .bind _ inner => inner.sinks
  | .parameter _ inner => inner.sinks

def sinksOfFields : List (String × Program) → List Sink
  | [] => []
  | (_, program) :: fields => program.sinks ++ sinksOfFields fields

end

theorem sinks_bindIfRead (depth : Nat) (program : Program) :
    (program.bindIfRead depth).sinks = program.sinks := by
  unfold bindIfRead
  split <;> rfl

end Program

/-- The sink of a connection. -/
def Subquery.sink (subquery : Subquery) : Sink :=
  (subquery.id, subquery.keys)

def Frame.sinks : Frame → List Sink
  | .subquerySink id keys => [(id, keys)]
  | _ => []

def Position.sinks : Position → List Sink
  | .object _ => []
  | .value program _ => program.sinks
  | .dictionary entry => entry.sinks

namespace Frame

theorem sinks_fill (frame : Frame) (program : Program) :
    (frame.fill program).sinks = frame.sinks ++ program.sinks := by
  cases frame with
  | bind depth => exact Program.sinks_bindIfRead depth program
  | _ => rfl

theorem sinks_fillFrames (frames : List Frame) (program : Program) :
    (fillFrames frames program).sinks =
      frames.flatMap sinks ++ program.sinks := by
  induction frames with
  | nil => rfl
  | cons frame frames induction =>
      change (frame.fill (fillFrames frames program)).sinks = _
      rw [sinks_fill, induction, List.flatMap_cons, List.append_assoc]

/-- A list is mapped at a position among frames. -/
def MapsAt (frames : List Frame) (index : Nat) : Prop :=
  ∃ filters, frames[index]? = some (.mapList filters)

namespace MapsAt

variable {frames : List Frame} {index : Nat}

theorem append (maps : MapsAt frames index) (more : List Frame) :
    MapsAt (frames ++ more) index := by
  obtain ⟨filters, found⟩ := maps
  have inside : index < frames.length := (List.getElem?_eq_some_iff.mp found).1
  exact ⟨filters, by rw [List.getElem?_append_left inside, found]⟩

theorem atLength (frames more : List Frame) :
    MapsAt (frames ++ .mapList 0 :: more) frames.length :=
  ⟨0, by simp⟩

/-- The frames around a mapped list have all the sinks. -/
theorem sinks_eq (maps : MapsAt frames index) :
    (frames.take index).flatMap sinks ++
      (frames.drop (index + 1)).flatMap sinks =
      frames.flatMap sinks := by
  obtain ⟨filters, found⟩ := maps
  obtain ⟨inside, found⟩ := List.getElem?_eq_some_iff.mp found
  calc
    _ =
        (frames.take index ++ frames[index] :: frames.drop (index + 1)).flatMap
          sinks := by
      rw [List.flatMap_append, List.flatMap_cons, found]
      rfl
    _ = frames.flatMap sinks := by
      rw [List.getElem_cons_drop, List.take_append_drop]

end MapsAt

end Frame

namespace Chain

/-- The sinks of the program that has been put together so far. -/
def sinks (chain : Chain) : List Sink :=
  chain.frames.flatMap Frame.sinks ++ chain.position.sinks

/-- The list of a chain is mapped by one of its frames, and a dictionary is made
from a list. -/
structure Mapped (chain : Chain) : Prop where
  list : ∀ {index}, chain.list = some index → Frame.MapsAt chain.frames index
  dictionary :
    ∀ {entry}, chain.position = .dictionary entry → chain.list.isSome = true

theorem Mapped.of_object {chain : Chain} {object : ObjectPosition}
    (list :
      ∀ {index}, chain.list = some index → Frame.MapsAt chain.frames index)
    (atObject : chain.position = .object object) : chain.Mapped where
  list := list
  dictionary := by
    intro entry atEntry
    rw [atObject] at atEntry
    cases atEntry

/-- Nothing of a chain is lost in its program. -/
theorem sinks_finish {chain : Chain} {program : Program} (mapped : chain.Mapped)
    (finished : chain.finish = .ok program) : program.sinks = chain.sinks := by
  have ended : ∀ inner : Program,
      (if chain.enforceSingle then inner.enforceSingle else inner).sinks =
        inner.sinks := by
    intro inner
    split <;> rfl
  unfold finish at finished
  cases position : chain.position with
  | object object => simp [position] at finished
  | value inner isList =>
      simp only [position, Except.ok.injEq] at finished
      rw [← finished, ended, Frame.sinks_fillFrames, sinks, position]
      rfl
  | dictionary entry =>
      simp only [position, Except.ok.injEq] at finished
      obtain ⟨index, listed⟩ :=
        Option.isSome_iff_exists.mp (mapped.dictionary position)
      rw [← finished, ended, Frame.sinks_fillFrames, sinks, position, listed]
      change _ ++ (fillFrames _ entry).sinks = _
      rw [Frame.sinks_fillFrames, ← List.append_assoc, Option.getD_some,
        (mapped.list listed).sinks_eq]
      rfl

end Chain

/-- Connections are added to a document, with the given sinks. -/
def CompileState.Adds (before after : CompileState) (sinks : List Sink) :
    Prop :=
  ∃ added, after.subqueries = before.subqueries ++ added ∧
    sinks = added.map Subquery.sink

namespace CompileState.Adds

variable {before middle after : CompileState} {sinks others : List Sink}

theorem none (same : after.subqueries = before.subqueries) :
    before.Adds after [] :=
  ⟨[], by simp [same], rfl⟩

theorem append (early : before.Adds middle sinks)
    (late : middle.Adds after others) :
    before.Adds after (sinks ++ others) := by
  obtain ⟨first, sameMiddle, rfl⟩ := early
  obtain ⟨second, sameAfter, rfl⟩ := late
  exact ⟨first ++ second, by rw [sameAfter, sameMiddle, List.append_assoc],
    (List.map_append).symm⟩

end CompileState.Adds

/-- Between two documents a chain has got the sinks of the new connections,
beside those it started with, and its frames map the lists that its first frames
map. -/
structure Chain.Gains (before after : CompileState) (sinks : List Sink)
    (frames : List Frame) (chain : Chain) : Prop where
  added : ∃ others, before.Adds after others ∧ chain.sinks = sinks ++ others
  maps : ∀ {index}, Frame.MapsAt frames index → Frame.MapsAt chain.frames index
  mapped : chain.Mapped

namespace Chain.Gains

variable {before middle after : CompileState} {sinks : List Sink}
  {frames : List Frame} {chain next : Chain}

theorem trans (early : chain.Gains before middle sinks frames)
    (late : next.Gains middle after chain.sinks chain.frames) :
    next.Gains before after sinks frames := by
  obtain ⟨first, addsFirst, sameChain⟩ := early.added
  obtain ⟨second, addsSecond, sameNext⟩ := late.added
  exact ⟨⟨first ++ second, addsFirst.append addsSecond,
      by rw [sameNext, sameChain, List.append_assoc]⟩,
    fun maps => late.maps (early.maps maps), late.mapped⟩

/-- A chain that goes on by more frames, without new connections. -/
theorem extend (same : after.subqueries = before.subqueries) (more : List Frame)
    (frames : next.frames = chain.frames ++ more)
    (noSinks :
      more.flatMap Frame.sinks ++ next.position.sinks = chain.position.sinks)
    (mapped : next.Mapped) :
    next.Gains before after chain.sinks chain.frames where
  added := by
    refine ⟨[], .none same, ?_⟩
    rw [List.append_nil, Chain.sinks, Chain.sinks, frames, List.flatMap_append,
      List.append_assoc, noSinks]
  maps := by
    intro index maps
    rw [frames]
    exact maps.append more
  mapped := mapped

/-- The value of a chain that ends with the programs of other pipelines. -/
theorem made {object : ObjectPosition} {position : Position}
    {others : List Sink}
    (atObject : chain.position = .object object)
    (adds : before.Adds after others) (sameSinks : position.sinks = others)
    (mapped : chain.Mapped)
    (dictionary :
      ∀ entry, position = .dictionary entry → chain.list.isSome = true) :
    Chain.Gains before after chain.sinks chain.frames
      { chain with position } where
  added := by
    refine ⟨others, adds, ?_⟩
    have noSinks : chain.position.sinks = [] := by
      rw [atObject]
      rfl
    rw [Chain.sinks, Chain.sinks, noSinks, List.append_nil, sameSinks]
  maps := fun maps => maps
  mapped := ⟨mapped.list, fun {entry} => dictionary entry⟩

/-- A pipeline that goes on inside more frames, which have no sinks. -/
theorem within (more : List Frame) (noSinks : more.flatMap Frame.sinks = [])
    {object : ObjectPosition} (atObject : chain.position = .object object)
    (gains :
      next.Gains before after ((chain.frames ++ more).flatMap Frame.sinks)
        (chain.frames ++ more)) :
    next.Gains before after chain.sinks chain.frames where
  added := by
    obtain ⟨others, adds, same⟩ := gains.added
    refine ⟨others, adds, ?_⟩
    rw [same, List.flatMap_append, noSinks, Chain.sinks, atObject]
    rfl
  maps := fun maps => gains.maps (maps.append more)
  mapped := gains.mapped

theorem endedBy (gains : chain.Gains before after sinks frames) (step : Step) :
    (chain.endedBy step).Gains before after sinks frames := by
  unfold Chain.endedBy
  split
  · exact ⟨gains.added, gains.maps, gains.mapped.list, gains.mapped.dictionary⟩
  · exact gains

end Chain.Gains

/-- What a change keeps is the same after a change in one place. -/
theorem map_modify_of_same {α β : Type} {change : α → α} {read : α → β}
    (same : ∀ value, read (change value) = read value) (index : Nat)
    (values : List α) :
    (values.modify index change).map read = values.map read := by
  ext1 other
  simp only [List.getElem?_map, List.getElem?_modify, Option.map_eq_map,
    Option.map_map]
  congr 1
  funext value
  simp only [Function.comp]
  split
  · exact same value
  · rfl

theorem sinks_guardFrames (type : TypeRef) :
    (guardFrames type).flatMap Frame.sinks = [] := by
  unfold guardFrames
  split <;> rfl

namespace Compile

variable {before after : CompileState} {chain next : Chain}

/-! ### Steps -/

theorem advance_gains {object : ObjectPosition} {field : FieldDefinition}
    {selected : SelectedField} {pendingPage : Option PendingPage}
    (same : after.subqueries = before.subqueries)
    (atObject : chain.position = .object object) (noList : chain.list = none)
    (advanced :
      advance { chain with pendingPage } object field selected = .ok next) :
    next.Gains before after chain.sinks chain.frames := by
  have noSinks : chain.position.sinks = [] := by
    rw [atObject]
    rfl
  unfold advance at advanced
  cases child : selected.child with
  | none =>
      simp only [child, Except.ok.injEq] at advanced
      subst next
      refine .extend same [] (List.append_nil _).symm noSinks.symm ⟨?_, ?_⟩
      · intro index listed
        rw [noList] at listed
        cases listed
      · intro entry atEntry
        cases atEntry
  | some set =>
      simp only [child] at advanced
      cases elementOf : field.type.element? with
      | none =>
          simp only [elementOf, guardNull_eq, Chain.push,
            Except.ok.injEq] at advanced
          subst next
          refine .extend same (.field selected.key :: guardFrames field.type)
            (by simp) ?_ (.of_object ?_ rfl)
          · rw [noSinks, List.flatMap_cons, sinks_guardFrames]
            rfl
          · intro index listed
            rw [noList] at listed
            cases listed
      | some element =>
          simp only [elementOf, guardNull_eq, mapList_eq,
            Chain.push] at advanced
          split at advanced
          · cases advanced
          · obtain rfl := Except.ok.inj advanced
            refine .extend same
              (.field selected.key :: guardFrames field.type ++
              .mapList 0 ::
                guardFrames element) (by simp) ?_ (.of_object ?_ rfl)
            · rw [noSinks, List.flatMap_append, List.flatMap_cons,
                List.flatMap_cons, sinks_guardFrames, sinks_guardFrames]
              rfl
            · intro index listed
              obtain rfl := Option.some.inj listed
              exact .atLength _ _

theorem selectField_gains {field : FieldDefinition} {arguments : List Argument}
    {paginate : Bool}
    (success :
      selectField chain field arguments paginate before = .ok (next, after)) :
    next.Gains before after chain.sinks chain.frames := by
  simp only [selectField, bind_eq_ok] at success
  obtain ⟨object, start, selectable, ⟨written, cursor⟩, passed, passing,
    success⟩ := success
  rw [← Chain.under_nil chain] at selectable
  obtain ⟨atObject, noList, rfl⟩ := selectableObject_spec selectable
  have samePassed := (passArguments_spec passing).1.2.1
  cases paginate with
  | false =>
      simp only [Bool.false_eq_true, if_false, bind_eq_ok,
        liftM_eq_ok] at success
      obtain ⟨selected, _, selecting, advanced, rfl⟩ := success
      obtain ⟨selections, _, rfl⟩ := selectIn_eq_ok selecting
      exact advance_gains samePassed atObject noList advanced
  | true =>
      simp only [if_true, bind_eq_ok, liftM_eq_ok] at success
      obtain ⟨⟨argument, page⟩, prepared, preparing, selected, _, selecting,
        advanced, rfl⟩ := success
      have samePrepared := (preparePage_spec preparing).1.2.1
      obtain ⟨selections, _, rfl⟩ := selectIn_eq_ok selecting
      exact advance_gains (samePrepared.trans samePassed) atObject noList
        advanced

theorem selectPageInfo_sameSubqueries {connection : ObjectPosition}
    {keys : String × String × String}
    (success : selectPageInfo connection before = .ok (keys, after)) :
    after.subqueries = before.subqueries := by
  simp only [selectPageInfo, bind_eq_ok] at success
  obtain ⟨pageInfo, first, selectingInfo, success⟩ := success
  obtain ⟨_, _, rfl⟩ := selectIn_eq_ok selectingInfo
  cases child : pageInfo.child with
  | none => simp [child] at success
  | some info =>
      simp only [child, bind_eq_ok, pure_eq_ok] at success
      obtain ⟨_, second, selectingNext, _, _, selectingCursor, _, rfl⟩ :=
        success
      obtain ⟨_, _, rfl⟩ := selectIn_eq_ok selectingNext
      obtain ⟨_, _, rfl⟩ := selectIn_eq_ok selectingCursor
      rfl

/-- A connection gets a sink when it is added to the document. -/
theorem selectAllPages_gains {nodes : FieldDefinition}
    (success : selectAllPages chain nodes before = .ok (next, after)) :
    next.Gains before after chain.sinks chain.frames := by
  unfold selectAllPages at success
  cases pending : chain.pendingPage with
  | none => simp [pending] at success
  | some page =>
      cases position : chain.position with
      | value program isList => simp [pending, position] at success
      | dictionary entry => simp [pending, position] at success
      | object connection =>
          simp only [pending, position] at success
          cases known : nodeType? nodes with
          | none => simp [known] at success
          | some element =>
              simp only [known, bind_eq_ok] at success
              obtain ⟨⟨pageInfo, hasNextPage, endCursor⟩, first, selectingInfo,
                selected, second, selecting, success⟩ := success
              have sameFirst := selectPageInfo_sameSubqueries selectingInfo
              obtain ⟨_, _, rfl⟩ := selectIn_eq_ok selecting
              cases child : selected.child with
              | none => simp [child] at success
              | some set =>
                  simp only [child, bind_eq_ok, pure_eq_ok, mapList_eq,
                    Chain.push] at success
                  obtain ⟨id, _, pushing, rfl, rfl⟩ := success
                  obtain ⟨rfl, rfl⟩ := pushSubquery_eq_ok pushing
                  constructor
                  · refine ⟨_, ⟨_, by rw [sameFirst], rfl⟩, ?_⟩
                    simp [Chain.sinks, position, Position.sinks, Frame.sinks,
                      sinks_guardFrames, Subquery.sink, sameFirst]
                  · intro index maps
                    rw [List.append_assoc]
                    exact maps.append _
                  · refine .of_object ?_ rfl
                    intro index listed
                    obtain rfl := Option.some.inj listed
                    exact .atLength _ _

/-- Counting a filter changes nothing but the number of filters. -/
theorem countFilter_gains {object : ObjectPosition}
    (atObject : chain.position = .object object) (mapped : chain.Mapped)
    (index : Nat) :
    (chain.countFilter index).Gains before before chain.sinks chain.frames := by
  have atCounted : (chain.countFilter index).position = .object object :=
    atObject
  have maps : ∀ {other}, Frame.MapsAt chain.frames other →
      Frame.MapsAt (chain.countFilter index).frames other := by
    rintro other ⟨filters, found⟩
    by_cases same : index = other
    · exact ⟨filters + 1, by simp [Chain.countFilter, same, found]⟩
    · exact ⟨filters, by simp [Chain.countFilter, same, found]⟩
  have sameSinks : (chain.countFilter index).frames.map Frame.sinks =
      chain.frames.map Frame.sinks :=
    map_modify_of_same (fun frame => by cases frame <;> rfl) index chain.frames
  refine ⟨⟨[], .none rfl, ?_⟩, maps,
    .of_object (fun listed => maps (mapped.list listed)) atCounted⟩
  rw [List.append_nil, Chain.sinks, Chain.sinks, List.flatMap_def,
    List.flatMap_def, sameSinks]
  rfl

theorem narrow_gains {object : ObjectPosition} {typeName : String}
    {mode : NarrowingMode}
    (atObject : chain.position = .object object) (mapped : chain.Mapped)
    (success : narrow chain object typeName mode before = .ok (next, after)) :
    next.Gains before after chain.sinks chain.frames := by
  simp only [narrow, bind_eq_ok, pure_eq_ok, Chain.push] at success
  obtain ⟨set, _, narrowing, rfl, rfl⟩ := success
  obtain ⟨_, rfl⟩ := fragmentIn_eq_ok narrowing
  refine .extend rfl [.narrow typeName mode] rfl ?_ (.of_object ?_ rfl)
  · rw [atObject]
    rfl
  · intro index listed
    exact (mapped.list listed).append _

theorem castTo_gains {typeName : String} (mapped : chain.Mapped)
    (success : castTo chain typeName before = .ok (next, after)) :
    next.Gains before after chain.sinks chain.frames := by
  simp only [castTo, bind_eq_ok] at success
  obtain ⟨object, _, narrowable, narrowing⟩ := success
  obtain ⟨atObject, _, rfl⟩ := narrowableObject_spec narrowable
  exact narrow_gains atObject mapped narrowing

theorem filterTo_gains {typeName : String} (mapped : chain.Mapped)
    (success : filterTo chain typeName before = .ok (next, after)) :
    next.Gains before after chain.sinks chain.frames := by
  simp only [filterTo, bind_eq_ok] at success
  obtain ⟨object, start, narrowable, success⟩ := success
  obtain ⟨atObject, _, rfl⟩ := narrowableObject_spec narrowable
  cases list : chain.list with
  | some index =>
      simp only [list] at success
      have counted :
          (chain.countFilter index).Gains start start chain.sinks
            chain.frames := countFilter_gains atObject mapped index
      have atCounted : (chain.countFilter index).position = .object object :=
        atObject
      exact counted.trans (narrow_gains atCounted counted.mapped success)
  | none =>
      by_cases absentOk : object.absentOk = true
      · simp only [list, absentOk, if_true] at success
        exact narrow_gains atObject mapped success
      · simp [list, absentOk] at success

theorem endSingle_gains {reducer : String} {enforceSingle : Bool}
    (mapped : chain.Mapped)
    (success :
      endSingle chain reducer enforceSingle before = .ok (next, after)) :
    next.Gains before after chain.sinks chain.frames := by
  rw [← Chain.under_nil chain] at success
  obtain ⟨_, rfl, rfl⟩ := endSingle_spec success
  rw [Chain.under_nil]
  exact .extend rfl [] (List.append_nil _).symm rfl
    ⟨mapped.list, mapped.dictionary⟩

/-- The elements of the outer list are what a projection goes on from. -/
theorem rejoin_gains {outer inner : Chain} {sinks : List Sink}
    {frames : List Frame}
    (mapped : ∀ {index}, outer.list = some index → Frame.MapsAt frames index)
    (gains : inner.Gains before after sinks frames) {final : CompileState}
    (success : rejoin outer inner after = .ok (next, final)) :
    next.Gains before final sinks frames := by
  unfold rejoin at success
  cases outerList : outer.list with
  | none =>
      simp only [outerList, pure_eq_ok] at success
      obtain ⟨rfl, rfl⟩ := success
      exact gains
  | some index =>
      cases innerList : inner.list with
      | some other => simp [outerList, innerList] at success
      | none =>
          simp only [outerList, innerList, pure_eq_ok] at success
          obtain ⟨rfl, rfl⟩ := success
          refine ⟨gains.added, gains.maps, ?_, fun _ => rfl⟩
          intro place listed
          obtain rfl := Option.some.inj listed
          exact gains.maps (mapped outerList)

theorem start_gains (frames : List Frame) (scopes : Scopes) (depth : Nat)
    (scope : Scope) :
    (Chain.start frames scopes depth scope).Gains before before
      (frames.flatMap Frame.sinks) frames := by
  have outer :
      ∃ more, (Chain.start frames scopes depth scope).frames = frames ++ more ∧
        more.flatMap Frame.sinks = [] := by
    unfold Chain.start
    split
    · exact ⟨_, rfl, rfl⟩
    · exact ⟨[], (List.append_nil _).symm, rfl⟩
  obtain ⟨more, framed, noSinks⟩ := outer
  refine ⟨⟨[], .none rfl, ?_⟩, ?_,
    .of_object (fun listed => by cases listed) rfl⟩
  · rw [Chain.sinks, framed, List.flatMap_append, noSinks, List.append_nil]
    exact List.append_nil _
  · intro index maps
    rw [framed]
    exact maps.append more

/-- The program of a pipeline of its own has the sinks of its connections. -/
theorem finished_adds {last : Chain} {program : Program}
    (gains : last.Gains before after [] [])
    (finished : last.finish = .ok program) :
    before.Adds after program.sinks := by
  obtain ⟨sinks, adds, same⟩ := gains.added
  rw [Chain.sinks_finish gains.mapped finished, same]
  exact adds

/-! ### Whole pipelines -/

mutual

theorem walkPipeline_gains {before after : CompileState} {scopes : Scopes}
    {frames : List Frame} {last : Chain} (pipeline : Pipeline)
    (success : walkPipeline scopes frames pipeline before = .ok (last, after)) :
    last.Gains before after (frames.flatMap Frame.sinks) frames := by
  cases pipeline with
  | mk source steps =>
      obtain ⟨depth, scope, _, walking⟩ := walkPipeline_eq_ok.mp success
      have started : (Chain.start frames scopes depth scope).Gains before before
          (frames.flatMap Frame.sinks) frames :=
            start_gains frames scopes depth scope
      exact started.trans (walk_gains steps started.mapped walking)
termination_by structural pipeline

theorem walk_gains {before after : CompileState} {scopes : Scopes}
    {chain last : Chain}
    (steps : List Step) (mapped : chain.Mapped)
    (success : walk scopes steps chain before = .ok (last, after)) :
    last.Gains before after chain.sinks chain.frames := by
  cases steps with
  | nil =>
      simp only [walk, pure_eq_ok] at success
      obtain ⟨rfl, rfl⟩ := success
      exact .extend rfl [] (List.append_nil _).symm rfl mapped
  | cons step rest =>
      obtain ⟨_, next, middle, first, others⟩ := walk_cons_eq_ok.mp success
      have gains := (walkStep_gains step mapped first).endedBy step
      exact gains.trans (walk_gains rest gains.mapped others)
termination_by structural steps

theorem walkStep_gains {before after : CompileState} {scopes : Scopes}
    {chain next : Chain} {paginate : Bool} (step : Step) (mapped : chain.Mapped)
    (success : walkStep scopes step paginate chain before = .ok (next, after)) :
    next.Gains before after chain.sinks chain.frames := by
  cases step with
  | property field => exact selectField_gains success
  | call field arguments => exact selectField_gains success
  | allPages nodes => exact selectAllPages_gains success
  | cast typeName => exact castTo_gains mapped success
  | filter typeName => exact filterTo_gains mapped success
  | single => exact endSingle_gains mapped success
  | singleOrDefault => exact endSingle_gains mapped success
  | toList =>
      rw [← Chain.under_nil chain] at success
      obtain ⟨_, rfl, rfl⟩ := endList_spec success
      rw [Chain.under_nil]
      exact .extend rfl [] (List.append_nil _).symm rfl mapped
  | record parameter fields =>
      obtain ⟨object, programs, atObject, compiling, rfl⟩ :=
        walkStep_record_eq_ok.mp success
      refine .made atObject (compileFields_adds fields compiling) ?_ mapped
        (by simp)
      exact Program.sinks_bindIfRead _ _
  | value parameter inner =>
      cases ended : inner.endsTerminal with
      | true =>
          obtain ⟨object, program, atObject, compiling, rfl⟩ :=
            (walkStep_valueEnded_eq_ok ended).mp success
          obtain ⟨last, walking, finished⟩ := pipeline_eq_ok.mp compiling
          have adds := finished_adds (walkPipeline_gains inner walking) finished
          exact .made atObject adds (Program.sinks_bindIfRead _ _) mapped
            (by simp)
      | false =>
          obtain ⟨object, last, middle, atObject, walking, rejoining⟩ :=
            (walkStep_valueContinued_eq_ok ended).mp success
          have gains :=
            rejoin_gains (fun listed => (mapped.list listed).append _)
              (walkPipeline_gains inner walking) rejoining
          exact gains.within [.bind scopes.length] rfl atObject
  | toDictionary parameter key value =>
      obtain ⟨object, keyProgram, valueProgram, middle, isList, atObject, keyed,
        valued, rfl⟩ := walkStep_toDictionary_eq_ok.mp success
      obtain ⟨keyChain, walkingKey, finishedKey⟩ := pipeline_eq_ok.mp keyed
      obtain ⟨valueChain, walkingValue, finishedValue⟩ :=
        pipeline_eq_ok.mp valued
      have addsKey :=
        finished_adds (walkPipeline_gains key walkingKey) finishedKey
      have addsValue :=
        finished_adds (walkPipeline_gains value walkingValue) finishedValue
      exact .made atObject (addsKey.append addsValue)
        (Program.sinks_bindIfRead _ _) mapped (fun _ _ => isList)
termination_by structural step

/-- The sinks of a record are those of its fields. -/
theorem compileFields_adds {before after : CompileState} {scopes : Scopes}
    {programs : List (String × Program)} (fields : List (String × Pipeline))
    (success : compileFields scopes fields before = .ok (programs, after)) :
    before.Adds after (Program.sinksOfFields programs) := by
  cases fields with
  | nil =>
      simp only [compileFields, pure_eq_ok] at success
      obtain ⟨rfl, rfl⟩ := success
      exact .none rfl
  | cons field fields =>
      obtain ⟨key, pipeline⟩ := field
      obtain ⟨program, others, middle, first, compiling, rfl⟩ :=
        compileFields_cons_eq_ok.mp success
      obtain ⟨last, walking, finished⟩ := pipeline_eq_ok.mp first
      exact (finished_adds (walkPipeline_gains pipeline walking)
        finished).append (compileFields_adds fields compiling)
termination_by structural fields

end

/-- A compiled program has one sink for each connection, in their order. -/
theorem compiled_sinks {pipeline : Pipeline} {compiled : CompiledOperation}
    (success : compile pipeline = .ok compiled) :
    compiled.program.sinks = compiled.subqueries.map Subquery.sink := by
  obtain ⟨kind, program, document, _, compiling, rfl, _⟩ :=
    compile_eq_ok success
  simp only [Compile.pipeline, bind_eq_ok, finish, liftM_eq_ok] at compiling
  obtain ⟨last, _, walking, finished, rfl⟩ := compiling
  obtain ⟨added, all, same⟩ :=
    finished_adds (walkPipeline_gains pipeline walking) finished
  change program.sinks = _
  rw [same, all]
  rfl

end Compile

end GraphPipeline
