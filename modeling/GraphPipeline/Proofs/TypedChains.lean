import GraphPipeline.Fetch
import GraphPipeline.Github.Accessor
import GraphPipeline.Proofs.Compile.WellShaped

/-!
# Typed chains

A wrapper is written by calling the accessors of its type, and the elements of a
list are reached through closures only.  So the pipeline of a wrapper has the
form its type says, and every fetch that can be written is well shaped.
-/

namespace GraphPipeline

/-! ### Pipelines step by step -/

theorem Pipeline.formOfSteps_append (first second : List Step) (before : Form) :
    formOfSteps (first ++ second) before =
      formOfSteps second (formOfSteps first before) := by
  induction first generalizing before with
  | nil => rfl
  | cons step first induction => exact induction (formOfStep step before)

theorem Pipeline.form_push (pipeline : Pipeline) (step : Step) :
    (pipeline.push step).form = formOfStep step pipeline.form := by
  cases pipeline with
  | mk source steps => exact formOfSteps_append steps [step] .object

/-- No step of a pipeline ends it. -/
def Pipeline.Open (pipeline : Pipeline) : Prop :=
  ∀ step ∈ pipeline.steps, step.isTerminal = false

theorem Pipeline.Open.push {pipeline : Pipeline} {step : Step}
    (goesOn : pipeline.Open) (plain : step.isTerminal = false) :
    (pipeline.push step).Open := by
  intro other member
  rcases List.mem_append.mp member with earlier | last
  · exact goesOn other earlier
  · rw [List.mem_singleton.mp last]
    exact plain

theorem Pipeline.Open.endsTerminal {pipeline : Pipeline}
    (goesOn : pipeline.Open) :
    pipeline.endsTerminal = false := by
  unfold Pipeline.endsTerminal
  cases last : pipeline.steps.getLast? with
  | none => rfl
  | some step => exact goesOn step (List.mem_of_getLast? last)

theorem Pipeline.wellShapedSteps_append {first second : List Step}
    {before : Form}
    (goesOn : ∀ step ∈ first, step.isTerminal = false)
    (shaped : WellShapedSteps first before)
    (shapedAfter : WellShapedSteps second (formOfSteps first before)) :
    WellShapedSteps (first ++ second) before := by
  induction first generalizing before with
  | nil => exact shapedAfter
  | cons step first induction =>
      obtain ⟨fits, _, others⟩ := shaped
      refine ⟨fits, fun ends => ?_, induction (fun other member =>
        goesOn other (List.mem_cons_of_mem _ member)) others shapedAfter⟩
      rw [goesOn step List.mem_cons_self] at ends
      cases ends

/-- A well-shaped pipeline that nothing has ended goes on by a step that
fits. -/
theorem Pipeline.WellShaped.push {pipeline : Pipeline} {step : Step}
    (shaped : pipeline.WellShaped) (goesOn : pipeline.Open)
    (fits : WellShapedStep step pipeline.form) :
    (pipeline.push step).WellShaped := by
  cases pipeline with
  | mk source steps =>
      exact wellShapedSteps_append goesOn shaped ⟨fits, fun _ => rfl, trivial⟩

namespace Github

/-! ### What can be written -/

/-- Whether the value of a target can be asked for. -/
def Target.isExtractable : Target → Bool
  | .object _ => false
  | .leaf => true
  | .list element => element.isExtractable

/-- The parameters of the closures around a wrapper, each with the type of the
object it stands for. -/
abbrev Closures := List (Parameter × CompositeDefinition)

/-- The wrappers that can be written inside of some closures.  Those written
outside of the innermost closure can be written inside of it as well. -/
inductive Wrapper.Written : Closures → Wrapper → Prop where
  | query {closures : Closures} : Written closures .query
  | mutation {closures : Closures} : Written closures .mutation
  | parameter {closures : Closures} {parameter : Parameter}
      {type : CompositeDefinition} :
      (parameter, type) ∈ closures →
      Written closures
        { pipeline := .parameter parameter, target := .object type }
  | access {closures : Closures} {wrapper : Wrapper}
      {type : CompositeDefinition} {accessor : Accessor}
      {definition : FieldDefinition} {values : List ArgumentValue} :
      Written closures wrapper →
      wrapper.target = .object type →
      type.Declares accessor →
      type.field? accessor.field = some definition →
      values.length = accessor.arguments.length →
      Written closures (accessor.call definition values wrapper)
  | allPages {closures : Closures} {wrapper pages : Wrapper}
      {type : CompositeDefinition} :
      Written closures wrapper →
      wrapper.target = .object type →
      type ∈ composites →
      wrapper.allPages? = some pages →
      Written closures pages
  | cast {closures : Closures} {wrapper narrowed : Wrapper}
      {type : CompositeDefinition} {typeName : String} :
      Written closures wrapper →
      wrapper.target = .object type →
      type.kind.isPolymorphic = true →
      wrapper.cast? typeName = some narrowed →
      Written closures narrowed
  | filter {closures : Closures} {wrapper narrowed : Wrapper}
      {type : CompositeDefinition} {typeName : String} :
      Written closures wrapper →
      wrapper.target = .object type →
      type.kind.isPolymorphic = true →
      wrapper.filter? typeName = some narrowed →
      Written closures narrowed
  | ofType {closures : Closures} {wrapper narrowed : Wrapper}
      {type : CompositeDefinition} {typeName : String} :
      Written closures wrapper →
      wrapper.target = .list (.object type) →
      wrapper.ofType? typeName = some narrowed →
      Written closures narrowed
  | select {closures : Closures} {wrapper : Wrapper}
      {type : CompositeDefinition} {parameter : Parameter}
      {fields : List (String × Wrapper)} :
      Written closures wrapper →
      wrapper.target.projected = .object type →
      (∀ field ∈ fields, Written ((parameter, type) :: closures) field.2) →
      Written closures (wrapper.select parameter fields)
  | selectValue {closures : Closures} {wrapper inner : Wrapper}
      {type : CompositeDefinition} {parameter : Parameter} :
      Written closures wrapper →
      wrapper.target.projected = .object type →
      Written ((parameter, type) :: closures) inner →
      Written closures (wrapper.selectValue parameter inner)

/-- The arguments of a field are named as the field defines them. -/
theorem Wrapper.names_of_arguments? {definitions : List ArgumentDefinition}
    {given : Entries ArgumentValue} {arguments : List Argument}
    (passed : (definitions.mapM fun definition =>
      match Entries.lookup? given definition.name with
      | some value => some { name := definition.name, value }
      | none =>
          if definition.type.isNullable then
            some { name := definition.name, value := .omitted }
          else none : Option (List Argument)) = some arguments) :
    arguments.map (·.name) = definitions.map (·.name) := by
  induction definitions generalizing arguments with
  | nil =>
      simp only [List.mapM_nil, Option.pure_def, Option.some.injEq] at passed
      subst arguments
      rfl
  | cons definition definitions induction =>
      simp only [List.mapM_cons, Option.bind_eq_bind, Option.bind_eq_some_iff,
        Option.pure_def, Option.some.injEq] at passed
      obtain ⟨argument, first, others, rest, rfl⟩ := passed
      have sameName : argument.name = definition.name := by
        split at first
        · exact congrArg Argument.name (Option.some.inj first).symm
        · split at first
          · exact congrArg Argument.name (Option.some.inj first).symm
          · cases first
      rw [List.map_cons, List.map_cons, sameName, induction rest]

/-- Arguments are given back by their names and values. -/
theorem zipWith_names (arguments : List Argument) :
    (arguments.map (·.name)).zipWith Argument.mk (arguments.map (·.value)) =
      arguments := by
  induction arguments with
  | nil => rfl
  | cons argument arguments induction =>
      exact congrArg (argument :: ·) induction

/-- Each field of a type of the schema has an accessor, which leads where the
field leads to. -/
theorem Wrapper.Written.field {closures : Closures} {wrapper next : Wrapper}
    {type : CompositeDefinition} {name : String} {given : Entries ArgumentValue}
    (written : wrapper.Written closures)
    (atObject : wrapper.target = .object type) (listed : type ∈ composites)
    (reached : wrapper.field? name given = some next) :
    next.Written closures := by
  simp only [Wrapper.field?, Wrapper.fieldDefinition?, atObject,
    Option.bind_eq_bind, Option.bind_eq_some_iff, Option.pure_def,
    Option.some.injEq] at reached
  obtain ⟨definition, found, arguments, passed, target, leads, rfl⟩ := reached
  have covered : (type, type.fields.map (·.name)) ∈
      accessorTable.map fun entry => (entry.1, entry.2.map (·.field)) := by
    rw [accessorTable_covers]
    exact List.mem_map_of_mem listed
  obtain ⟨entry, declared, same⟩ := List.mem_map.mp covered
  obtain ⟨rfl, sameFields⟩ := Prod.mk.inj same
  have foundIn : entry.1.fields.find? (·.name == name) = some definition :=
    found
  have selected := List.find?_some foundIn
  have sameName : definition.name = name := beq_iff_eq.mp selected
  have member : name ∈ entry.2.map (·.field) := by
    rw [sameFields, ← sameName]
    exact List.mem_map_of_mem (List.mem_of_find?_eq_some foundIn)
  obtain ⟨accessor, inEntry, rfl⟩ := List.mem_map.mp member
  have declares : entry.1.Declares accessor := ⟨entry, declared, rfl, inEntry⟩
  obtain ⟨other, foundOther, agrees⟩ := declares.agrees
  obtain rfl := Option.some.inj (found.symm.trans foundOther)
  have sameTarget : accessor.target = target :=
    Option.some.inj (agrees.2.trans leads)
  have names : arguments.map (·.name) = accessor.arguments :=
    (Wrapper.names_of_arguments? passed).trans agrees.1.symm
  have access :
      (accessor.call definition (arguments.map (·.value)) wrapper).Written
        closures :=
    .access written atObject declares found
      (by rw [← names, List.length_map, List.length_map])
  have sameEmpty :
      accessor.arguments.isEmpty = definition.arguments.isEmpty := by
    rw [agrees.1, List.isEmpty_map]
  unfold Accessor.call at access
  rwa [sameEmpty, ← names, zipWith_names, sameTarget] at access

/-- The fetches that can be written.  A value is asked for once, as a list, or
by keys. -/
inductive Written : Fetch → Prop where
  | value {wrapper : Wrapper} {ending : Ending} {type : NativeType} :
      wrapper.Written [] →
      wrapper.target.isExtractable = true →
      ending.step = .single ∨ ending.step = .singleOrDefault →
      Written (wrapper.pipeline.fetch ending type)
  | list {wrapper : Wrapper} {element : Target} {ending : Ending}
      {type : NativeType} :
      wrapper.Written [] →
      wrapper.target = .list element →
      element.isExtractable = true →
      ending.step = .toList →
      Written (wrapper.pipeline.fetch ending type)
  | dictionary {wrapper key value : Wrapper} {type : CompositeDefinition}
      {parameter : Parameter} {result : NativeType} :
      wrapper.Written [] →
      wrapper.target = .list (.object type) →
      key.Written [(parameter, type)] →
      key.target.isExtractable = true →
      value.Written [(parameter, type)] →
      value.target.isExtractable = true →
      Written { pipeline := wrapper.toDictionary parameter key value,
                resultType := result }

/-! ### Forms of targets -/

/-- The form of a pipeline that leads to a target.  Nothing is gone on to from a
leaf. -/
def Target.Fits : Target → Form → Prop
  | .object _, form => form = .object
  | .leaf, _ => True
  | .list (.object _), form => form = .objects
  | .list _, form => form.isList = true

/-- A list is a list, whatever its elements are. -/
theorem Target.Fits.isList {element : Target} {form : Form}
    (fits : Target.Fits (.list element) form) : form.isList = true := by
  cases element with
  | object type =>
      have objects : form = .objects := fits
      rw [objects]
      rfl
  | leaf => exact fits
  | list element => exact fits

/-- What can be projected is an object, or a list of objects. -/
theorem Target.Fits.projected {target : Target} {form : Form}
    {type : CompositeDefinition}
    (fits : target.Fits form) (projected : target.projected = .object type) :
    (target = .object type ∧ form = .object) ∨
      (target = .list (.object type) ∧ form = .objects) := by
  cases target with
  | object other =>
      obtain rfl := Target.object.inj projected
      exact .inl ⟨rfl, fits⟩
  | leaf => cases projected
  | list element =>
      have elements : element = .object type := projected
      subst element
      exact .inr ⟨rfl, fits⟩

theorem Target.Fits.kind {target : Target} {form : Form}
    {type : CompositeDefinition}
    (fits : target.Fits form) (projected : target.projected = .object type) :
    form.kind = .object := by
  obtain ⟨_, rfl⟩ | ⟨_, rfl⟩ := fits.projected projected <;> rfl

/-- A record stands in place of each element. -/
theorem Target.Fits.made {target : Target} {form : Form}
    {type : CompositeDefinition}
    (fits : target.Fits form) (projected : target.projected = .object type) :
    (target.afterProjection .leaf).Fits form.made := by
  obtain ⟨rfl, rfl⟩ | ⟨rfl, rfl⟩ := fits.projected projected
  · trivial
  · exact rfl

/-- A projection leads to what it leads to for each element. -/
theorem Target.Fits.project {target inner : Target} {form innerForm : Form}
    {type : CompositeDefinition} (fits : target.Fits form)
    (projected : target.projected = .object type)
    (innerFits : inner.Fits innerForm) :
    (target.afterProjection inner).Fits (form.project innerForm) := by
  obtain ⟨rfl, rfl⟩ | ⟨rfl, rfl⟩ := fits.projected projected
  · exact innerFits
  · cases inner with
    | object other =>
        obtain rfl : innerForm = .object := innerFits
        exact rfl
    | leaf => exact rfl
    | list inner => exact rfl

theorem Target.fits_list {element : Target} {form : Form}
    (isList : form.isList = true)
    (objects : ∀ type, element = .object type → form = .objects) :
    Target.Fits (.list element) form := by
  cases element with
  | object type => exact objects type rfl
  | leaf => exact isList
  | list element => exact isList

/-- Lists of leaves are no objects. -/
theorem Target.leaves_ne_object (lists : List Bool)
    (type : CompositeDefinition) :
    lists.foldl (fun element _ => Target.list element) .leaf ≠
      .object type := by
  rcases lists.eq_nil_or_concat' with rfl | ⟨outer, last, rfl⟩
  · exact Target.noConfusion
  · rw [List.foldl_concat]
    exact Target.noConfusion

/-- A field of an object leads to the form of what its type leads to. -/
theorem Target.fits_ofType {definition : FieldDefinition} {target : Target}
    (leads : Target.ofType? definition.type = some target) :
    target.Fits (Form.object.field definition.type) := by
  have counted :
      definition.type.wrapping.lists.length =
        definition.type.wrapping.listCount := by
    rw [Wrapping.lists, List.length_map, List.length_range]
  unfold Target.ofType? at leads
  obtain ⟨inner, innermost, rfl⟩ := Option.map_eq_some_iff.mp leads
  rcases definition.type.wrapping.lists.eq_nil_or_concat' with
    noList | ⟨outer, last, lists⟩
  · have single : definition.type.isList = false := by
      rw [noList] at counted
      simp [TypeRef.isList, Wrapping.isList, ← counted]
    rw [noList, List.foldl_nil]
    split at innermost
    · rename_i composite
      obtain ⟨type, _, rfl⟩ := Option.map_eq_some_iff.mp innermost
      simp [Target.Fits, Form.field, composite, single, Form.object]
    · obtain rfl := Option.some.inj innermost
      trivial
  · have isList : definition.type.isList = true := by
      rw [lists] at counted
      simp [TypeRef.isList, Wrapping.isList, ← counted]
    rw [lists, List.foldl_concat]
    split at innermost
    · rename_i composite
      have objects : Form.object.field definition.type = .objects := by
        simp [Form.field, composite, isList, Form.objects]
      rw [objects]
      exact Target.fits_list rfl fun _ _ => rfl
    · rename_i plain
      obtain rfl := Option.some.inj innermost
      refine Target.fits_list ?_
        fun type same => absurd same (Target.leaves_ne_object outer type)
      simp [Form.field, plain, isList, Form.isList]

theorem composites_listObjects :
    ∀ type ∈ composites, ∀ nodes ∈ type.field? "nodes",
      ((Target.ofType? nodes.type).any fun
        | .list (.object _) => true
        | _ => false) = true := by
  decide +kernel

/-- The nodes of a connection are objects. -/
theorem nodes_of_connection {type : CompositeDefinition}
    (listed : type ∈ composites)
    {nodes : FieldDefinition} (found : type.field? "nodes" = some nodes)
    {target : Target}
    (leads : Target.ofType? nodes.type = some target) :
    ∃ node, target = .list (.object node) := by
  have objects := composites_listObjects type listed nodes found
  rw [leads] at objects
  match target, objects with
  | .list (.object node), _ => exact ⟨node, rfl⟩

/-! ### Soundness -/

/-- The pipeline of a wrapper keeps what the target of the wrapper says. -/
structure Wrapper.Sound (wrapper : Wrapper) : Prop where
  fits : wrapper.target.Fits wrapper.pipeline.form
  shaped : wrapper.pipeline.WellShaped
  goesOn : wrapper.pipeline.Open

/-- A step that fits leads from a sound wrapper to another. -/
theorem Wrapper.Sound.push {wrapper : Wrapper} {step : Step} {target : Target}
    (sound : wrapper.Sound) (plain : step.isTerminal = false)
    (fitting : Pipeline.WellShapedStep step wrapper.pipeline.form)
    (fits : target.Fits (Pipeline.formOfStep step wrapper.pipeline.form)) :
    Wrapper.Sound { pipeline := wrapper.pipeline.push step, target } where
  fits := by
    rw [Pipeline.form_push]
    exact fits
  shaped := sound.shaped.push sound.goesOn fitting
  goesOn := sound.goesOn.push plain

/-- The start of a chain is an object. -/
theorem Wrapper.sound_of_source (source : Source) (type : CompositeDefinition) :
    Wrapper.Sound { pipeline := .mk source [], target := .object type } where
  fits := rfl
  shaped := trivial
  goesOn := fun _ member => by cases member

/-- The arguments an accessor passes are arguments of its field. -/
theorem Accessor.Agrees.known {accessor : Accessor}
    {definition : FieldDefinition}
    (agrees : accessor.Agrees definition) (values : List ArgumentValue) :
    ∀ argument ∈ accessor.arguments.zipWith Argument.mk values,
      (definition.argument? argument.name).isSome = true := by
  intro argument member
  obtain ⟨index, bound, rfl⟩ := List.mem_iff_getElem.mp member
  have within : index < accessor.arguments.length :=
    Nat.lt_of_lt_of_le bound
      (by rw [List.length_zipWith]; exact Nat.min_le_left _ _)
  have named :
      accessor.arguments[index] ∈ definition.arguments.map (·.name) := by
    rw [← agrees.1]
    exact List.getElem_mem within
  rw [List.getElem_zipWith]
  obtain ⟨known, listed, same⟩ := List.mem_map.mp named
  exact List.find?_isSome.mpr ⟨known, listed, beq_iff_eq.mpr same⟩

/-- An accessor leads from a sound wrapper of its type to another sound
wrapper. -/
theorem Accessor.Agrees.sound {accessor : Accessor}
    {definition : FieldDefinition} {wrapper : Wrapper}
    {type : CompositeDefinition} (agrees : accessor.Agrees definition)
    (values : List ArgumentValue) (sound : wrapper.Sound)
    (atObject : wrapper.target = .object type) :
    (accessor.call definition values wrapper).Sound := by
  have single : wrapper.pipeline.form = .object := by
    have fits := sound.fits
    rw [atObject] at fits
    exact fits
  have leads :
      accessor.target.Fits (wrapper.pipeline.form.field definition.type) := by
    rw [single]
    exact Target.fits_ofType agrees.2.symm
  unfold Accessor.call
  split
  · exact sound.push rfl single leads
  · exact sound.push rfl ⟨single, agrees.known values⟩ leads

theorem wellShapedFields_of_sound {fields : List (String × Wrapper)}
    (sound : ∀ field ∈ fields, Wrapper.Sound field.2) :
    Pipeline.WellShapedFields
      (fields.map fun (key, field) => (key, field.pipeline)) := by
  induction fields with
  | nil => trivial
  | cons field fields induction =>
      exact ⟨(sound field List.mem_cons_self).shaped,
        induction fun other member =>
        sound other (List.mem_cons_of_mem _ member)⟩

/-- Every wrapper that can be written is sound. -/
theorem Wrapper.Written.sound {closures : Closures} {wrapper : Wrapper}
    (written : wrapper.Written closures) : wrapper.Sound := by
  induction written with
  | query => exact Wrapper.sound_of_source _ _
  | mutation => exact Wrapper.sound_of_source _ _
  | parameter member => exact Wrapper.sound_of_source _ _
  | @access closures wrapper type accessor definition values _ atObject declared
      found _ sound =>
      obtain ⟨other, foundOther, agrees⟩ := declared.agrees
      obtain rfl := Option.some.inj (found.symm.trans foundOther)
      exact agrees.sound values sound atObject
  | @allPages closures wrapper pages type _ atObject listed leads sound =>
      simp only [Wrapper.allPages?, Wrapper.fieldDefinition?, atObject,
        Option.bind_eq_bind, Option.bind_eq_some_iff, Option.pure_def,
        Option.some.injEq] at leads
      obtain ⟨nodes, found, target, leadsTo, rfl⟩ := leads
      obtain ⟨node, rfl⟩ := nodes_of_connection listed found leadsTo
      exact sound.push rfl trivial rfl
  | @cast closures wrapper narrowed type typeName _ atObject _ narrows sound =>
      obtain ⟨other, _, rfl⟩ := Option.map_eq_some_iff.mp narrows
      have fits := sound.fits
      rw [atObject] at fits
      exact sound.push rfl trivial fits
  | @filter closures wrapper narrowed type typeName _ atObject _ narrows
      sound =>
      obtain ⟨other, _, rfl⟩ := Option.map_eq_some_iff.mp narrows
      have fits := sound.fits
      rw [atObject] at fits
      exact sound.push rfl trivial fits
  | @ofType closures wrapper narrowed type typeName _ atList narrows sound =>
      obtain ⟨other, _, rfl⟩ := Option.map_eq_some_iff.mp narrows
      have fits := sound.fits
      rw [atList] at fits
      exact sound.push rfl trivial fits
  | @select closures wrapper type parameter fields _ projected _ sound
      soundFields =>
      exact sound.push rfl
        ⟨sound.fits.kind projected, wellShapedFields_of_sound soundFields⟩
        (sound.fits.made projected)
  | @selectValue closures wrapper inner type parameter _ projected _ sound
      soundInner =>
      refine sound.push rfl ⟨sound.fits.kind projected, soundInner.shaped⟩ ?_
      rw [Pipeline.formOfStep,
        if_neg (by simp [soundInner.goesOn.endsTerminal])]
      exact sound.fits.project projected soundInner.fits

/-- Every fetch that can be written is well shaped. -/
theorem Written.wellShaped {fetch : Fetch} (written : Written fetch) :
    fetch.pipeline.WellShaped := by
  cases written with
  | @value wrapper ending type written _ ends =>
      refine written.sound.shaped.push written.sound.goesOn ?_
      rcases ends with single | orDefault
      · rw [single]
        trivial
      · rw [orDefault]
        trivial
  | @list wrapper element ending type written atList _ ends =>
      have fits := written.sound.fits
      rw [atList] at fits
      refine written.sound.shaped.push written.sound.goesOn ?_
      rw [ends]
      exact fits.isList
  | @dictionary wrapper key value type parameter result written atList
      writtenKey _ writtenValue _ =>
      have fits := written.sound.fits
      rw [atList] at fits
      exact written.sound.shaped.push written.sound.goesOn
        ⟨fits, writtenKey.sound.shaped, writtenValue.sound.shaped⟩

/-- The compilation of a fetch that can be written never fails with a shape
error. -/
theorem compile_written_ne_shapeError {fetch : Fetch} (written : Written fetch)
    {error : CompileError} (misshapen : error.isShapeError = true) :
    compile fetch.pipeline ≠ .error error := by
  intro failure
  have avoided := Compile.compile_avoids written.wellShaped failure
  rw [misshapen] at avoided
  cases avoided

namespace Sample

def searchAccessor : Accessor :=
  Accessor.pages "search" ["query", "type"] (.object searchResultItemConnection)

def searchField : FieldDefinition :=
  connectionField "search" (TypeRef.object "SearchResultItemConnection").nonNull
    [argument "query" stringType.nonNull,
     argument "type" searchType.type.nonNull]

/-- A search for repositories. -/
def starred : Wrapper :=
  searchAccessor.call searchField
    [.omitted, .omitted, .omitted, .omitted, .literal (.string "stars:>1"),
      .enumeration "REPOSITORY"] .query

/-- Everything on all pages of the search. -/
def pages : Wrapper :=
  { pipeline :=
      starred.pipeline.allPages (nodesField (TypeRef.union "SearchResultItem"))
    target := .list (.object searchResultItem) }

def repositories : Wrapper :=
  { pipeline := pages.pipeline.filter "Repository",
    target := .list (.object repository) }

def found : Wrapper :=
  { pipeline := .parameter "found", target := .object repository }

def fullNameAccessor : Accessor :=
  Accessor.reads "nameWithOwner" .leaf

/-- The full name of a repository that was found. -/
def fullName : Wrapper :=
  fullNameAccessor.call (plain "nameWithOwner" stringType.nonNull) [] found

def ownerAccessor : Accessor :=
  Accessor.reads "owner" (.object repositoryOwner)

def owner : Wrapper :=
  ownerAccessor.call
    (plain "owner" (TypeRef.interface "RepositoryOwner").nonNull) [] found

/-- The owner of a repository, who must be a user. -/
def account : Wrapper :=
  { pipeline := owner.pipeline.cast "User", target := .object user }

def loginAccessor : Accessor :=
  Accessor.reads "login" .leaf

def login : Wrapper :=
  loginAccessor.call (plain "login" stringType.nonNull) []
    { pipeline := .parameter "account", target := .object user }

/-- The login of the owner beside the name of the repository, which is
captured. -/
def ownership : Wrapper :=
  account.select "account" [("login", login), ("repository", fullName)]

/-- Who owns the repositories, by the full names of the repositories. -/
def owners : Fetch :=
  { pipeline := repositories.toDictionary "found" fullName ownership,
    resultType := .json }

theorem owners_written : Written owners := by
  have searchDeclared : queryRoot.Declares searchAccessor := by decide +kernel
  have searched : starred.Written [] :=
    .access .query rfl searchDeclared rfl rfl
  have listed : searchResultItemConnection ∈ composites := by decide +kernel
  have paged : pages.Written [] := .allPages searched rfl listed rfl
  have ofOneType : pages.ofType? "Repository" = some repositories := rfl
  have filtered : repositories.Written [] := .ofType paged rfl ofOneType
  have nameDeclared : repository.Declares fullNameAccessor := by decide +kernel
  have named : ∀ {closures : Closures}, ("found", repository) ∈ closures →
      fullName.Written closures :=
    fun inside => .access (.parameter inside) rfl nameDeclared rfl rfl
  have ownerDeclared : repository.Declares ownerAccessor := by decide +kernel
  have owned : owner.Written [("found", repository)] :=
    .access (.parameter List.mem_cons_self) rfl ownerDeclared rfl rfl
  have isUser : owner.cast? "User" = some account := rfl
  have loginDeclared : user.Declares loginAccessor := by decide +kernel
  have record : ownership.Written [("found", repository)] := by
    refine .select (.cast owned rfl rfl isUser) rfl ?_
    intro field member
    rcases List.mem_pair.mp member with rfl | rfl
    · exact .access (.parameter List.mem_cons_self) rfl loginDeclared rfl rfl
    · exact named (List.mem_cons_of_mem _ List.mem_cons_self)
  exact .dictionary filtered rfl (named List.mem_cons_self) rfl record rfl

end Sample

theorem compile_owners_ne_shapeError :
    Written Sample.owners ∧
      (compile Sample.owners.pipeline).toBool = true ∧
        compile Sample.owners.pipeline ≠
          .error (.unsupportedDictionarySource "nodes") :=
  ⟨Sample.owners_written, by cbv,
    compile_written_ne_shapeError Sample.owners_written rfl⟩

end Github

end GraphPipeline
