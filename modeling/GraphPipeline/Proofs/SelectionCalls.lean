import GraphPipeline.Proofs.ClosedDocuments
import GraphPipeline.Proofs.CursorPaths

/-!
# Calls on the selections under construction

A document is built by calls that select a field or a fragment in a set, each in
a set that an earlier call has returned.  What a call returns stays true: in the
document as it is after any number of further calls, the keys that a chain of
calls returned lead to the field the last of them asked for.  Calls on the
objects at one path share a key exactly if they ask for one field with one list
of arguments.
-/

namespace GraphPipeline

namespace Selections

/-- A successful call with what it returned. -/
inductive Call where
  | field (parent : SetId) (definition : FieldDefinition)
      (arguments : List Argument) (selected : SelectedField)
  | fragment (parent : SetId) (typeName : String) (set : SetId)

/-- A set that the calls returned for the objects at a response path.  The
fragments of a set are sets for the same objects. -/
inductive LeadsTo (calls : List Call) : List String → SetId → Prop where
  | root : LeadsTo calls [] rootId
  | field {path : List String} {parent set : SetId}
      {definition : FieldDefinition} {arguments : List Argument}
      {selected : SelectedField} :
      LeadsTo calls path parent →
        .field parent definition arguments selected ∈ calls →
      selected.child = some set → LeadsTo calls (path ++ [selected.key]) set
  | fragment {path : List String} {parent set : SetId} {typeName : String} :
      LeadsTo calls path parent → .fragment parent typeName set ∈ calls →
      LeadsTo calls path set

/-- The arena after some calls, the first of them on an arena with the root set
alone. -/
inductive Made : List Call → Selections → Prop where
  | fresh : Made [] initial
  | field {calls : List Call} {before after : Selections} {path : List String}
      {parent : SetId} {definition : FieldDefinition}
        {arguments : List Argument}
      {selected : SelectedField} :
      Made calls before → LeadsTo calls path parent →
        isGraphqlName definition.name = true →
      before.field parent definition arguments = .ok (selected, after) →
      Made (calls ++ [.field parent definition arguments selected]) after
  | fragment {calls : List Call} {before after : Selections}
      {path : List String} {parent set : SetId} {typeName : String} :
      Made calls before → LeadsTo calls path parent →
      before.fragment parent typeName = (set, after) →
      Made (calls ++ [.fragment parent typeName set]) after

theorem LeadsTo.more {calls later : List Call} {path : List String}
    {set : SetId}
    (leads : LeadsTo calls path set) : LeadsTo (calls ++ later) path set := by
  induction leads with
  | root => exact .root
  | field _ made child induction =>
      exact .field induction (List.mem_append_left _ made) child
  | fragment _ made induction =>
    exact .fragment induction (List.mem_append_left _ made)

/-! ### One key for each signature -/

/-- No two keys of a key space stand for one signature. -/
def SignedOnce (selections : Selections) : Prop :=
  ∀ ⦃space : KeySpaceId⦄ ⦃first second : String⦄ ⦃entry other : KeyEntry⦄,
    Entries.lookup? (selections.keys space) first = some entry →
      Entries.lookup? (selections.keys space) second = some other →
        entry.signature = other.signature → first = second

theorem SignedOnce.of_keySpaces {before after : Selections}
    (once : before.SignedOnce) (same : after.keySpaces = before.keySpaces) :
    after.SignedOnce := by
  intro space first second entry other found otherFound
  rw [keys_of_keySpaces same] at found otherFound
  exact once found otherFound

theorem initial_signedOnce : initial.SignedOnce := by
  intro space first second entry other found
  have noKeys : initial.keys space = [] := by
    cases space <;> rfl
  rw [noKeys, Entries.lookup?_nil] at found
  cases found

/-- A key is taken for a signature that no key stands for. -/
theorem SignedOnce.takeKey {selections : Selections}
    (once : selections.SignedOnce)
    {space : KeySpaceId} (bound : space < selections.keySpaces.length)
    {signature : String}
    (unsigned : selections.keyOf? space signature = none) (name : String)
    (type : TypeRef) :
    (selections.takeKey space name signature type).2.SignedOnce := by
  have differs : ∀ {key : String} {entry : KeyEntry},
      Entries.lookup? (selections.keys space) key = some entry →
        entry.signature ≠ signature := by
    intro key entry found
    simpa using List.find?_eq_none.mp unsigned _ (Entries.mem_of_lookup? found)
  intro other first second entry known found knownFound sameSignature
  rw [keys_takeKey bound] at found knownFound
  by_cases here : other = space
  · rw [if_pos here] at found knownFound
    generalize freeKey (Entries.keys (selections.keys space)) name =
      key at found knownFound
    by_cases isFirst : key = first
    · by_cases isSecond : key = second
      · rw [← isFirst, ← isSecond]
      · rw [isFirst, Entries.lookup?_put_same] at found
        rw [Entries.lookup?_put_other _ _ isSecond] at knownFound
        obtain rfl := Option.some.inj found
        exact absurd sameSignature.symm (differs knownFound)
    · rw [Entries.lookup?_put_other _ _ isFirst] at found
      by_cases isSecond : key = second
      · rw [isSecond, Entries.lookup?_put_same] at knownFound
        obtain rfl := Option.some.inj knownFound
        exact absurd sameSignature (differs found)
      · rw [Entries.lookup?_put_other _ _ isSecond] at knownFound
        exact once found knownFound sameSignature
  · rw [if_neg here] at found knownFound
    exact once found knownFound sameSignature

theorem SignedOnce.resolveKey {selections after : Selections}
    (once : selections.SignedOnce)
    {space : KeySpaceId} (bound : space < selections.keySpaces.length)
    {name signature : String} {type : TypeRef}
    {resolved : String × Option KeySpaceId}
    (success :
      selections.resolveKey space name signature type = .ok (resolved, after)) :
    after.SignedOnce := by
  unfold Selections.resolveKey at success
  cases known : selections.keyOf? space signature with
  | some pair =>
      simp only [known] at success
      split at success
      · obtain rfl := congrArg Prod.snd (Except.ok.inj success)
        exact once
      · cases success
  | none =>
      simp only [known] at success
      obtain rfl := congrArg Prod.snd (Except.ok.inj success)
      exact once.takeKey bound known name type

theorem SignedOnce.field {named : String → Prop} {selections after : Selections}
    (once : selections.SignedOnce) (formed : selections.WellFormed named)
    {parent : SetId} {definition : FieldDefinition} {arguments : List Argument}
    {selected : SelectedField}
    (success :
      selections.field parent definition arguments = .ok (selected, after)) :
    after.SignedOnce := by
  rcases field_cases success with
    ⟨rfl, _⟩ | ⟨_, key, space, middle, resolution, pushed⟩
  · exact once
  · obtain rfl := congrArg Prod.snd pushed
    exact (once.resolveKey (formed.spaceBound parent) resolution).of_keySpaces
      pushField_keySpaces

theorem keySpaces_fragment (selections : Selections) (parent : SetId)
    (typeName : String) :
    (selections.fragment parent typeName).2.keySpaces =
      selections.keySpaces := by
  unfold fragment
  dsimp only
  split <;> rfl

/-! ### What the calls have returned -/

/-- What an arena holds of the calls that it comes from. -/
structure Remembers (calls : List Call) (selections : Selections) : Prop where
  formed : selections.WellFormed fun name => isGraphqlName name = true
  signedOnce : selections.SignedOnce
  nonempty : 0 < selections.sets.length
  fields :
    ∀ {parent : SetId} {definition : FieldDefinition}
        {arguments : List Argument} {selected : SelectedField}, .field parent
        definition arguments selected ∈ calls →
      isGraphqlName definition.name = true ∧
        selections.Holds parent definition arguments selected
  fragments : ∀ {parent : SetId} {typeName : String} {set : SetId},
    .fragment parent typeName set ∈ calls →
      Entries.lookup? (selections.set parent).fragments typeName = some set

theorem Remembers.reaches {calls : List Call} {selections : Selections}
    (remembers : Remembers calls selections) {path : List String} {set : SetId}
    (leads : LeadsTo calls path set) : selections.ReachesSet path set := by
  induction leads with
  | root => exact .root
  | field _ made child induction =>
      obtain ⟨_, record, member, _, _, rfl⟩ := remembers.fields made
      exact .field induction member child
  | fragment _ made induction =>
    exact .fragment induction (remembers.fragments made)

/-- What was returned is still there in a later arena. -/
theorem Remembers.grow {calls : List Call} {before after : Selections}
    (remembers : Remembers calls before) (grows : before.Grows after)
    (formed : after.WellFormed fun name => isGraphqlName name = true)
    (signedOnce : after.SignedOnce) : Remembers calls after where
  formed := formed
  signedOnce := signedOnce
  nonempty := Nat.lt_of_lt_of_le remembers.nonempty grows.sets
  fields :=
    fun made =>
      ⟨(remembers.fields made).1, (remembers.fields made).2.grow grows⟩
  fragments := fun made => grows.fragments (remembers.fragments made)

/-- An arena remembers one more call if it holds what this call returned. -/
theorem Remembers.concat {calls : List Call} {selections : Selections}
    {call : Call}
    (remembers : Remembers calls selections)
    (field : ∀ {parent definition arguments selected},
      call = .field parent definition arguments selected →
        isGraphqlName definition.name = true ∧
          selections.Holds parent definition arguments selected)
    (fragment : ∀ {parent typeName set}, call = .fragment parent typeName set →
      Entries.lookup? (selections.set parent).fragments typeName = some set) :
    Remembers (calls ++ [call]) selections where
  formed := remembers.formed
  signedOnce := remembers.signedOnce
  nonempty := remembers.nonempty
  fields member := (List.mem_append.mp member).elim remembers.fields fun last =>
    field (List.mem_singleton.mp last).symm
  fragments member :=
    (List.mem_append.mp member).elim remembers.fragments fun last =>
    fragment (List.mem_singleton.mp last).symm

theorem Made.remembers {calls : List Call} {selections : Selections}
    (made : Made calls selections) : Remembers calls selections := by
  induction made with
  | fresh =>
      exact
        { formed := initial_wellFormed _
          signedOnce := initial_signedOnce
          nonempty := Nat.zero_lt_one
          fields := fun member => absurd member List.not_mem_nil
          fragments := fun member => absurd member List.not_mem_nil }
  | field _ leads named success remembers =>
      have bound :=
        (remembers.reaches leads).lt remembers.formed remembers.nonempty
      obtain ⟨formed, grows, holds⟩ :=
        field_spec remembers.formed bound named success
      refine (remembers.grow grows formed
        (remembers.signedOnce.field remembers.formed success)).concat ?_ ?_
      · rintro _ _ _ _ ⟨⟩
        exact ⟨named, holds⟩
      · rintro _ _ _ ⟨⟩
  | @fragment _ before after _ _ _ _ _ leads success remembers =>
      have bound :=
        (remembers.reaches leads).lt remembers.formed remembers.nonempty
      obtain ⟨formed, grows, found, _⟩ :=
        fragment_spec remembers.formed bound success
      have sameSpaces : after.keySpaces = before.keySpaces := by
        rw [← keySpaces_fragment before, success]
      refine (remembers.grow grows formed
        (remembers.signedOnce.of_keySpaces sameSpaces)).concat ?_ ?_
      · rintro _ _ _ _ ⟨⟩
      · rintro _ _ _ ⟨⟩
        exact found

/-- Every call is made on the objects at some path. -/
theorem Made.placed {calls : List Call} {selections : Selections}
    (made : Made calls selections)
    {parent : SetId} {definition : FieldDefinition} {arguments : List Argument}
    {selected : SelectedField}
    (member : .field parent definition arguments selected ∈ calls) :
    ∃ path, LeadsTo calls path parent := by
  induction made with
  | fresh => cases member
  | field _ leads _ _ induction =>
      rcases List.mem_append.mp member with earlier | last
      · obtain ⟨path, leads⟩ := induction earlier
        exact ⟨path, leads.more⟩
      · cases List.mem_singleton.mp last
        exact ⟨_, leads.more⟩
  | fragment _ _ _ induction =>
      rcases List.mem_append.mp member with earlier | last
      · obtain ⟨path, leads⟩ := induction earlier
        exact ⟨path, leads.more⟩
      · cases List.mem_singleton.mp last

/-! ### Keys of the document -/

/-- The keys that calls returned in an arena and the fields of its document. -/
structure AnswersCalls (calls : List Call) (selections : Selections) :
    Prop where
  /-- Every field was selected on the objects at some path. -/
  placed :
    ∀ {parent : SetId} {definition : FieldDefinition}
        {arguments : List Argument} {selected : SelectedField}, .field parent
        definition arguments selected ∈ calls →
      ∃ path, LeadsTo calls path parent
  /-- Fields of the objects at one path have the same key exactly if they are
  one field with one list of arguments. -/
  shared :
    ∀ {path : List String} {parent other : SetId}
        {definition found : FieldDefinition} {arguments others : List Argument}
        {selected known : SelectedField}, LeadsTo calls path parent →
      LeadsTo calls path other →
      .field parent definition arguments selected ∈ calls →
        .field other found others known ∈ calls →
          (selected.key = known.key ↔ definition.name = found.name ∧
            Argument.renderAll arguments = Argument.renderAll others)
  /-- The keys that lead to a field lead to it in the document. -/
  selected :
    ∀ {path : List String} {parent : SetId} {definition : FieldDefinition}
        {arguments : List Argument} {selected : SelectedField}, LeadsTo calls
        path parent → .field parent definition arguments selected ∈ calls →
      ∃ field,
        (selections.materialize rootId).Selects (path ++ [selected.key]) field
  /-- No other field is there. -/
  only : ∀ {path : List String} {parent : SetId} {definition : FieldDefinition}
    {arguments : List Argument} {selected : SelectedField}
      {field : FieldSelection},
    LeadsTo calls path parent →
      .field parent definition arguments selected ∈ calls →
      (selections.materialize rootId).Selects (path ++ [selected.key]) field →
        field.name = definition.name ∧
          Argument.renderAll field.arguments = Argument.renderAll arguments

namespace Remembers

variable {calls : List Call} {selections : Selections}

/-- Calls on the objects at one path, the signatures of which are the same,
share a key. -/
theorem key_eq_iff (remembers : Remembers calls selections) {path : List String}
    {parent other : SetId} {definition found : FieldDefinition}
    {arguments others : List Argument} {selected known : SelectedField}
    (leads : LeadsTo calls path parent) (otherLeads : LeadsTo calls path other)
    (made : .field parent definition arguments selected ∈ calls)
    (otherMade : .field other found others known ∈ calls) :
    selected.key = known.key ↔
      signature definition.name arguments = signature found.name others := by
  obtain ⟨_, record, member, signed, _, rfl⟩ := remembers.fields made
  obtain ⟨_, otherRecord, otherMember, otherSigned, _, rfl⟩ :=
    remembers.fields otherMade
  have space := (remembers.reaches leads).sameSpace remembers.formed
    (remembers.reaches otherLeads)
  rw [← signed, ← otherSigned]
  constructor
  · intro sameKey
    exact (sameKey_matches remembers.formed space member otherMember sameKey).1
  · intro sameSignature
    obtain ⟨entry, found, matching⟩ := remembers.formed.recorded member
    obtain ⟨otherEntry, otherFound, otherMatching⟩ :=
      remembers.formed.recorded otherMember
    rw [← space] at otherFound
    refine remembers.signedOnce found otherFound ?_
    rw [matching.signature, otherMatching.signature, sameSignature]

theorem answersCalls (remembers : Remembers calls selections)
    (placed : ∀ {parent definition arguments selected},
      .field parent definition arguments selected ∈ calls →
        ∃ path, LeadsTo calls path parent) :
    AnswersCalls calls selections := by
  constructor
  · exact placed
  · intro path parent other definition found arguments others selected known
      leads otherLeads made otherMade
    rw [remembers.key_eq_iff leads otherLeads made otherMade]
    constructor
    · exact signature_injective (remembers.fields made).1
        (remembers.fields otherMade).1
    · rintro ⟨sameName, sameArguments⟩
      rw [signature, signature, sameName, sameArguments]
  · intro path parent definition arguments selected leads made
    obtain ⟨_, record, member, _, _, rfl⟩ := remembers.fields made
    exact ⟨_, (remembers.reaches leads).selects_record remembers.formed member⟩
  · intro path parent definition arguments selected field leads made selects
    obtain ⟨named, record, member, signed, _, rfl⟩ := remembers.fields made
    obtain ⟨before, inner, other, samePath, space, otherMember, rfl⟩ :=
      exists_record_at remembers.formed selects
    obtain ⟨rfl, sameKey⟩ := List.append_inj' samePath rfl
    have sameSpace := (remembers.reaches leads).space remembers.formed
    rw [space] at sameSpace
    have equal :=
      (sameKey_matches remembers.formed (Option.some.inj sameSpace) otherMember
        member (List.singleton_inj.mp sameKey).symm).1
    rw [remembers.formed.signed otherMember, signed] at equal
    exact signature_injective (remembers.formed.nameOf otherMember) named equal

end Remembers

end Selections

/-- After any calls, the keys they returned stand for the fields they asked
for. -/
theorem made_answersCalls {calls : List Selections.Call}
    {selections : Selections}
    (made : Selections.Made calls selections) :
    Selections.AnswersCalls calls selections :=
  made.remembers.answersCalls made.placed

namespace Sample

open Selections

/-- The arena after a field is selected, if it can be. -/
def afterField (selections : Selections) (parent : SetId)
    (definition : FieldDefinition) (arguments : List Argument) : Selections :=
  ((selections.field parent definition arguments).toOption.map Prod.snd).getD
    selections

def inState (state : String) : List Argument :=
  [⟨"state", .enumeration state⟩]

/-- Two selections of one field, and the first of them once more in a
fragment. -/
def issueCalls : List Call :=
  [.field rootId issues (inState "OPEN") ⟨"issues", some 1⟩,
    .field rootId issues (inState "CLOSED") ⟨"issues1", some 2⟩,
    .fragment rootId "Query" 3,
    .field 3 issues (inState "OPEN") ⟨"issues", some 4⟩,
    .field 4 title [] ⟨"title", none⟩]

def openSelection : Selections :=
  afterField initial rootId issues (inState "OPEN")

def allIssues : Selections :=
  afterField openSelection rootId issues (inState "CLOSED")

def issuesOfQueries : Selections :=
  (allIssues.fragment rootId "Query").2

def openSelectionAgain : Selections :=
  afterField issuesOfQueries 3 issues (inState "OPEN")

def openTitles : Selections :=
  afterField openSelectionAgain 4 title []

theorem issueCalls_made : Made issueCalls openTitles := by
  have opened :
      Made ([] ++ [.field rootId issues (inState "OPEN") ⟨"issues", some 1⟩])
      openSelection :=
    .field .fresh .root (by decide) (by rfl)
  have closed :
      Made (_ ++ [.field rootId issues (inState "CLOSED") ⟨"issues1", some 2⟩])
      allIssues :=
    .field opened .root (by decide) (by rfl)
  have typed : Made (_ ++ [.fragment rootId "Query" 3]) issuesOfQueries :=
    .fragment closed .root (by rfl)
  have again : Made (_ ++ [.field 3 issues (inState "OPEN") ⟨"issues", some 4⟩])
      openSelectionAgain :=
    .field typed (.fragment .root (List.mem_append_right _ (.head _)))
      (by decide) (by rfl)
  exact .field again
    (.field (.fragment .root
      (List.mem_append_left _ (List.mem_append_right _ (.head _))))
      (List.mem_append_right _ (.head _)) rfl) (by decide) (by rfl)

end Sample

theorem issueCalls_answered :
    Selections.Made Sample.issueCalls Sample.openTitles ∧
      Selections.AnswersCalls Sample.issueCalls Sample.openTitles :=
  ⟨Sample.issueCalls_made, made_answersCalls Sample.issueCalls_made⟩

end GraphPipeline
