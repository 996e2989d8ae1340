import GraphPipeline.Proofs.Compile.WalkSoundness

/-!
# Documents without conflicts

All selections on the objects at one response path, however many fragments lie
between them, take their response keys from one key space.  A response key of
the path therefore stands for one field with one list of arguments.
-/

namespace GraphPipeline

namespace TypedSet

/-- A set that holds selections on the objects at a response path. -/
inductive Reaches : TypedSet → List String → TypedSet → Prop where
  | here {set : TypedSet} : Reaches set [] set
  | fragment {set inner last : TypedSet} {typeName : String}
      {path : List String} :
      (typeName, inner) ∈ set.fragments → Reaches inner path last →
        Reaches set path last
  | field {set inner last : TypedSet} {field : TypedField}
      {path : List String} :
      field ∈ set.fields → field.selections = some inner →
        Reaches inner path last →
        Reaches set (field.key :: path) last

/-- Fields that are answered under one key are one field, and no set holds a key
twice. -/
structure ConflictFree (document : TypedSet) : Prop where
  merged : ∀ {path left right first second},
    document.Reaches path left → document.Reaches path right →
      first ∈ left.fields → second ∈ right.fields → first.key = second.key →
        first.name = second.name ∧
          Argument.renderAll first.arguments =
            Argument.renderAll second.arguments ∧
            first.type = second.type
  distinct : ∀ {path set}, document.Reaches path set →
    (set.fields.map TypedField.key).Nodup

end TypedSet

namespace Selections

/-- The key space of the objects at a response path. -/
def spaceAt? (selections : Selections) :
    KeySpaceId → List String → Option KeySpaceId
  | space, [] => some space
  | space, key :: path =>
      ((Entries.lookup? (selections.keys space) key).bind KeyEntry.child).bind
        fun child => selections.spaceAt? child path

variable {named : String → Prop} {selections : Selections}

/-- The sets that hold selections on the objects at a path share a key space. -/
theorem reaches_typed (formed : WellFormed named selections)
    {set last : TypedSet} {path : List String}
    (reaches : set.Reaches path last) :
    ∀ {id}, set = selections.typed id →
      ∃ lastId, last = selections.typed lastId ∧
        selections.spaceAt? (selections.set id).keySpace path =
          some (selections.set lastId).keySpace := by
  induction reaches with
  | here =>
      intro id same
      exact ⟨id, same, rfl⟩
  | fragment member _ induction =>
      intro id same
      rw [same, fragments_typed formed] at member
      obtain ⟨fragment, recorded, sameFragment⟩ := List.mem_map.mp member
      obtain ⟨lastId, sameLast, found⟩ :=
        induction (Prod.mk.inj sameFragment).2.symm
      rw [formed.fragmentSpace recorded] at found
      exact ⟨lastId, sameLast, found⟩
  | field member child _ induction =>
      intro id same
      rw [same, fields_typed formed] at member
      obtain ⟨record, recorded, rfl⟩ := List.mem_map.mp member
      obtain ⟨set, childSet, sameSet⟩ := Option.map_eq_some_iff.mp child
      obtain ⟨lastId, sameLast, found⟩ := induction sameSet.symm
      obtain ⟨entry, known, matching⟩ := formed.recorded recorded
      have entryChild : entry.child = some (selections.set set).keySpace := by
        rw [matching.child, childSet]
        rfl
      refine ⟨lastId, sameLast, ?_⟩
      simp only [spaceAt?, typedField, TypedField.key, known, Option.bind_some,
        entryChild]
      exact found

/-- Records of one key space that have the same key have the same signature. -/
theorem sameKey_matches (formed : WellFormed named selections)
    {left right : SetId}
    {first second : FieldRecord} (space : (selections.set left).keySpace =
      (selections.set right).keySpace)
    (firstMember : first ∈ (selections.set left).fields)
    (secondMember : second ∈ (selections.set right).fields)
    (sameKey : first.key = second.key) :
    first.signature = second.signature ∧ first.type = second.type := by
  obtain ⟨entry, firstKnown, firstMatches⟩ := formed.recorded firstMember
  obtain ⟨other, secondKnown, secondMatches⟩ := formed.recorded secondMember
  rw [space, sameKey, secondKnown] at firstKnown
  obtain rfl := Option.some.inj firstKnown
  exact ⟨firstMatches.signature.symm.trans secondMatches.signature,
    firstMatches.type.symm.trans secondMatches.type⟩

theorem keys_nodup (formed : WellFormed named selections) (id : SetId) :
    ((selections.set id).fields.map FieldRecord.key).Nodup := by
  have signatures := formed.distinct id
  unfold List.Nodup at *
  rw [List.pairwise_map] at *
  refine List.Pairwise.imp_of_mem ?_ signatures
  intro first second firstMember secondMember different sameKey
  exact different
    (sameKey_matches formed rfl firstMember secondMember sameKey).1

theorem typed_conflictFree
    (formed : WellFormed (fun name => isGraphqlName name = true) selections)
    (id : SetId) :
    (selections.typed id).ConflictFree := by
  constructor
  · intro path left right first second reachesLeft reachesRight firstMember
      secondMember sameKey
    obtain ⟨leftId, rfl, leftSpace⟩ := reaches_typed formed reachesLeft rfl
    obtain ⟨rightId, rfl, rightSpace⟩ := reaches_typed formed reachesRight rfl
    rw [fields_typed formed] at firstMember secondMember
    obtain ⟨firstRecord, firstRecorded, rfl⟩ := List.mem_map.mp firstMember
    obtain ⟨secondRecord, secondRecorded, rfl⟩ := List.mem_map.mp secondMember
    have space :
        (selections.set leftId).keySpace = (selections.set rightId).keySpace :=
      Option.some.inj (leftSpace.symm.trans rightSpace)
    obtain ⟨sameSignature, sameType⟩ :=
      sameKey_matches formed space firstRecorded secondRecorded sameKey
    rw [formed.signed firstRecorded,
      formed.signed secondRecorded] at sameSignature
    obtain ⟨sameName, sameArguments⟩ :=
      signature_injective (formed.nameOf firstRecorded)
        (formed.nameOf secondRecorded) sameSignature
    exact ⟨sameName, sameArguments, sameType⟩
  · intro path set reaches
    obtain ⟨setId, rfl, _⟩ := reaches_typed formed reaches rfl
    rw [fields_typed formed, List.map_map]
    exact keys_nodup formed setId

end Selections

/-- The document of a pipeline whose field names are names of the query language
is free of conflicts. -/
theorem compile_conflictFree {pipeline : Pipeline}
    {compiled : CompiledOperation}
    (named : pipeline.EachField fun field _ => isGraphqlName field.name = true)
    (success : compile pipeline = .ok compiled) :
    ∃ document, pipeline.typedDocument? = some document ∧
      document.erase = compiled.operation.selections ∧
        document.ConflictFree := by
  have names : Compile.PageNames fun name => isGraphqlName name = true :=
    ⟨by decide, by decide, by decide⟩
  obtain ⟨kind, document, outcome⟩ :=
    Compile.outcome_of_compile names named success
  refine ⟨_, outcome.typed, ?_,
    Selections.typed_conflictFree outcome.formed.selections _⟩
  rw [Selections.erase_typed, outcome.operation]
  rfl

namespace Sample

def title : FieldDefinition :=
  { name := "title", type := (TypeRef.scalar .string).nonNull, arguments := [] }

def issues : FieldDefinition :=
  { name := "issues"
    type := (TypeRef.object "Issue").nonNull.listOf.nonNull
    arguments := [⟨"state", TypeRef.enumeration "IssueState"⟩] }

def node : FieldDefinition :=
  { name := "node", type := TypeRef.interface "Node", arguments := [] }

def titles (state : String) : Pipeline :=
  (((Pipeline.parameter "query").call issues
    [⟨"state", .enumeration state⟩]).selectValue
    "issue" ((Pipeline.parameter "issue").property title)).toList

/-- The titles of two selections of one field, and of an object if it is an
issue. -/
def issueTitles : Pipeline :=
  (Pipeline.root .query).select "query"
    [("open", titles "OPEN"),
      ("closed", titles "CLOSED"),
      ("node", (((Pipeline.parameter "query").property node).cast
         "Issue").property title)]

theorem issueTitles_accepted :
    ∃ compiled, compile issueTitles = .ok compiled := by
  have accepted : (compile issueTitles).isOk = true := by decide +kernel
  cases result : compile issueTitles with
  | ok compiled => exact ⟨compiled, rfl⟩
  | error error => simp [result, Except.isOk, Except.toBool] at accepted

theorem issueTitles_named :
    issueTitles.EachField fun field _ => isGraphqlName field.name = true := by
  decide +kernel

end Sample

theorem compile_issueTitles_conflictFree :
    ∃ compiled document, compile Sample.issueTitles = .ok compiled ∧
      Sample.issueTitles.typedDocument? = some document ∧
        document.erase = compiled.operation.selections ∧
          document.ConflictFree := by
  obtain ⟨compiled, success⟩ := Sample.issueTitles_accepted
  obtain ⟨document, typed, erased, free⟩ :=
    compile_conflictFree Sample.issueTitles_named success
  exact ⟨compiled, document, success, typed, erased, free⟩

end GraphPipeline
