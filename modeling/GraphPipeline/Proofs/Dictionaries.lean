import GraphPipeline.Proofs.Compile.Dictionaries
import GraphPipeline.Proofs.Mirroring

/-!
# The entries of dictionaries

On a conforming response, a pipeline that ends in a dictionary gives a verdict
on each element of its list.  If the evaluation of no entry fails, every key is
a scalar and no two keys are written alike, then the dictionary has one member
for each element that is not skipped, in the order of the list.  Otherwise the
error is that of the first element whose entry cannot be added.
-/

namespace GraphPipeline

namespace Program

/-- The outcome on the data of a response, with the nodes of all pages or on a
first evaluation. -/
def outcomeOn (program : Program) (given : Option AllNodes) (data : Json) :
    Except ExtractionError Json :=
  match given with
  | none => (program.collect data).map Prod.fst
  | some nodes => program.replay nodes data

theorem outcomeOn_eq (program : Program) (given : Option AllNodes)
    (data : Json) :
    program.outcomeOn given data =
      ((Evaluate.program given program data).result (.initial data)).1 := by
  cases given with
  | none =>
      simp only [outcomeOn, collect]
      cases (Evaluate.program none program data).result (.initial data) with
      | mk result state => cases result <;> rfl
  | some nodes => rfl

end Program

/-- The nodes that are given, if any, conform to the document. -/
theorem AllNodes.conform_of_fit {named : String → Prop}
    {document : CompileState}
    (formed : document.WellFormed named) {given : Option AllNodes}
    (fit : ∀ nodes ∈ given, AllNodes.Fit nodes
      (document.selections.typed Selections.rootId) document.subqueries) :
    AllNodes.Conform document given := by
  cases given with
  | none =>
      intro id nodes subquery set record child lookup
      cases lookup
  | some nodes => exact AllNodes.Fit.conform formed (@fit nodes rfl)

open Compile

/-- The dictionary of an accepted pipeline on a conforming response, once the
evaluation has come to a list.  There is one verdict on each element: it is
skipped, because it is null or becomes null or a filter rejects it, or it gives
a key and a value, or its evaluation fails.  The whole evaluation succeeds
exactly if the entries of all elements can be added.  The members are then those
of the elements that are not skipped, in order, under the texts of their keys.
It fails exactly with the error of the first element that offends. -/
theorem compiled_dictionary_entries {source : Source} {steps : List Step}
    {parameter : Parameter} {key value : Pipeline}
    {compiled : CompiledOperation}
    (success :
      compile (.mk source (steps ++ [.toDictionary parameter key value])) =
        .ok compiled) :
    ∃ document inside entry keyProgram valueProgram,
      (Pipeline.mk source
        (steps ++ [.toDictionary parameter key value])).typedDocument? =
        some document ∧
      compiled.program.HoldsDictionary steps parameter key value inside entry
        keyProgram valueProgram ∧
      ∀ {given data listing}, document.Admits data →
        (∀ nodes ∈ given, AllNodes.Fit nodes document compiled.subqueries) →
        compiled.program.listing? given (EvaluationState.initial data).binding?
          [] data =
            some listing →
          (.null ∈ listing.items →
            entry.arrival listing.bindings .null = .skipped) ∧
          ∃ verdicts,
            List.Forall₂ (fun indexed verdict => ∀ other,
                entry.Decides given listing.bindings
                  (.index indexed.2 :: listing.trail)
                  indexed.1 other ↔ other = verdict)
              listing.items.zipIdx verdicts ∧
            (∀ result, compiled.program.outcomeOn given data = .ok result ↔
              Verdict.AllEnter verdicts ∧
                result = .object (Verdict.members verdicts)) ∧
            (Verdict.AllEnter verdicts →
              List.Forall₂ (fun verdict member => ∃ key text value,
                  verdict = .pair key value ∧ key.keyText? = some text ∧
                    member = (text, value))
                (verdicts.filter (!·.isSkipped)) (Verdict.members verdicts)) ∧
            ∀ error, compiled.program.outcomeOn given data = .error error ↔
              ∃ before verdict,
                Verdict.FirstOffends listing.trail.reverse verdicts before
                  verdict error := by
  obtain ⟨kind, document, outcome⟩ := outcome_of_compile anyPageNames
    (Pipeline.eachField (fun _ _ => trivial) _) success
  obtain ⟨inside, entry, keyProgram, valueProgram, holds⟩ :=
    compiled_holdsDictionary success
  refine ⟨_, inside, entry, keyProgram, valueProgram, outcome.typed, holds, ?_⟩
  intro given data listing admits nodesFit found
  have fits : Fits document (fun _ => True) Places.root (.object Place.root)
      compiled.program :=
    fits_of_outcome outcome (fun _ _ _ _ => trivial)
      (Pipeline.eachField (fun _ _ => (trivial : True)) _) trivial
  rw [outcome.subqueries] at nodesFit
  have conform : AllNodes.Conform document given :=
    AllNodes.conform_of_fit outcome.formed nodesFit
  have bound : Evaluate.Bindings document Places.root
      (EvaluationState.initial data).binding? := by
    rw [binding?_initial]
    refine Evaluate.Bindings.update ?_ admits 0
    intro depth place known
    cases known
  obtain ⟨settles, absences⟩ :=
    Evaluate.fits_listing outcome.formed conform fits holds.builds bound admits
      found
  have rejects : ∀ error, ((Evaluate.program given compiled.program data).result
      (.initial data)).1 = .error error → error.isRejection = true :=
    fun _ =>
      (Evaluate.fits_settles outcome.formed conform fits bound admits).error rfl
  obtain ⟨verdicts, collected, decided, collects, same⟩ :=
    Evaluate.program_collects holds.builds holds.pairs found settles rejects
  rw [← Program.outcomeOn_eq] at same
  refine ⟨absences, verdicts, decided, ?_, Verdict.AllEnter.members_filter, ?_⟩
  · intro result
    rw [same, Evaluate.map_eq_ok]
    constructor
    · rintro ⟨dictionary, built, rfl⟩
      obtain ⟨enter, rfl⟩ := collects.ok_iff.mp built
      exact ⟨enter, rfl⟩
    · rintro ⟨enter, rfl⟩
      exact ⟨_, collects.ok_iff.mpr ⟨enter, rfl⟩, rfl⟩
  · intro error
    rw [same, Evaluate.map_eq_error]
    exact collects.error_iff

namespace Sample

def memberList : FieldDefinition :=
  { name := "members", type := (TypeRef.interface "Actor").listOf.nonNull,
    arguments := [] }

def nickname : FieldDefinition :=
  { name := "nickname", type := TypeRef.scalar .string, arguments := [] }

/-- The nicknames of the members that are users, under their logins. -/
def nicknames : Pipeline :=
  (((Pipeline.root .query).property memberList).filter "User").toDictionary "u"
    ((Pipeline.parameter "u").property login)
      ((Pipeline.parameter "u").property nickname)

def userSelections : TypedSet :=
  .mk false
    [.mk "login" "login" login.type [] none,
     .mk "nickname" "nickname" nickname.type [] none] []

def memberSelections : TypedSet :=
  .mk true [] [("User", userSelections)]

def nicknamesDocument : TypedSet :=
  .mk false [.mk "members" "members" memberList.type [] (some memberSelections)]
    []

def user (login : String) (nickname : Json) : Json :=
  .object [(typenameKey, .string "User"), ("login", .string login),
    ("nickname", nickname)]

/-- A user, a member that is absent, a bot, and a user without a nickname. -/
def members : List Json :=
  [user "ann" (.string "A"), .null, .object [(typenameKey, .string "Bot")],
   user "bob" .null]

def membersData : Json :=
  .object [("members", .array members)]

theorem user_admitted {name : String} {nickname : Json}
    (typed : Sample.nickname.type.wrapping.Admits
      (fun leaf => Sample.nickname.type.kind.accepts leaf = true) nickname) :
    memberSelections.Admits (user name nickname) := by
  have selected : userSelections.Admits (user name nickname) :=
    ⟨_, rfl, fun asks => (by cases asks),
      ⟨⟨_, rfl, .value rfl rfl rfl⟩, ⟨_, rfl, typed⟩, trivial⟩, trivial⟩
  exact ⟨_, rfl, fun _ => ⟨_, rfl⟩, trivial, fun _ => selected, trivial⟩

theorem membersData_admitted : nicknamesDocument.Admits membersData := by
  have element : memberList.type.wrapping.element? =
      some (TypeRef.interface "Actor").wrapping := by
    decide
  have each : ∀ member ∈ members, (TypeRef.interface "Actor").wrapping.Admits
      memberSelections.Admits member := by
    simp only [members, List.forall_mem_cons]
    refine ⟨.value rfl rfl (user_admitted (.value rfl rfl rfl)), .null rfl,
      .value rfl rfl ?_, .value rfl rfl (user_admitted (.null rfl)),
      fun member none => by cases none⟩
    have bot : Entries.lookup? [(typenameKey, Json.string "Bot")] typenameKey ≠
        some (.string "User") := by
      simp [Entries.lookup?]
    exact ⟨_, rfl, fun _ => ⟨_, rfl⟩, trivial, fun other => absurd other bot,
      trivial⟩
  exact ⟨_, rfl, fun asks => (by cases asks),
    ⟨⟨_, rfl, .list element each⟩, trivial⟩, trivial⟩

/-- The members of the query. -/
def memberListing : Program.Listing :=
  { bindings := (EvaluationState.initial membersData).binding?
    trail := [.key "members"]
    items := members }

end Sample

/-- Two of four members are skipped, and the others have their entries. -/
theorem compile_nicknames_entries :
    ∃ compiled entry verdicts, compile Sample.nicknames = .ok compiled ∧
      compiled.program.entries? = some entry ∧
      List.Forall₂ (fun indexed verdict => ∀ other,
          entry.Decides none Sample.memberListing.bindings
            [.index indexed.2, .key "members"]
            indexed.1 other ↔ other = verdict)
        Sample.members.zipIdx verdicts ∧
      Verdict.AllEnter verdicts ∧
      Verdict.members verdicts = [("ann", .string "A"), ("bob", .null)] := by
  have evaluated : (compile Sample.nicknames).map (fun compiled =>
      (compiled.program, compiled.program.outcomeOn none Sample.membersData)) =
      .ok (.field "members" (.toDictionary (.optional (.narrow "User" .filter
          (.keyValue (.readScalar "login" Sample.login.type)
            (.readScalar "nickname" Sample.nickname.type))))),
        .ok (.object [("ann", .string "A"), ("bob", .null)])) := by
    cbv
  have document :
      Sample.nicknames.typedDocument? = some Sample.nicknamesDocument := by
    cbv
  obtain ⟨compiled, success, same⟩ := Evaluate.map_eq_ok.mp evaluated
  obtain ⟨sameProgram, outcome⟩ := Prod.mk.inj same
  have found : compiled.program.listing? none
      (EvaluationState.initial Sample.membersData).binding? []
        Sample.membersData =
        some Sample.memberListing := by
    rw [sameProgram]
    rfl
  obtain ⟨typed, _, entry, _, _, sameTyped, holds, gives⟩ :=
    @compiled_dictionary_entries (.root .query)
      [.property Sample.memberList, .filter "User"] _ _ _ _ success
  obtain rfl := Option.some.inj (document.symm.trans sameTyped)
  obtain ⟨_, verdicts, decided, succeeds, _⟩ :=
    gives Sample.membersData_admitted (fun nodes none => by cases none) found
  obtain ⟨enter, sameMembers⟩ := (succeeds _).mp outcome
  exact ⟨compiled, entry, verdicts, success, holds.builds, decided, enter,
    (Json.object.inj sameMembers).symm⟩

end GraphPipeline
