import GraphPipeline.Proofs.Evaluation.Settling

/-!
# Entries of a dictionary

What becomes of each element of the list a dictionary is built from.  The
entries are added in order: either all of them can be added, or the evaluation
stops at the first element that cannot be, and the error is about the place of
that element.
-/

namespace GraphPipeline

/-- What becomes of an element of a list: it is skipped, or gives a key and a
value, or its evaluation fails. -/
inductive Verdict where
  | skipped
  | pair (key value : Json)
  | failed (error : ExtractionError)
  deriving Inhabited

namespace Verdict

/-- The outcome of the evaluation of an element. -/
def outcome : Verdict → Except ExtractionError Json
  | .skipped => .ok .null
  | .pair key value => .ok (.array [key, value])
  | .failed error => .error error

theorem outcome_injective : Function.Injective outcome := by
  intro first second same
  cases first <;> cases second <;> cases same <;> rfl

def isSkipped : Verdict → Bool
  | .skipped => true
  | .pair _ _ => false
  | .failed _ => false

/-- The member an element makes, under the text of its key. -/
def member? : Verdict → Option (String × Json)
  | .pair key value => key.keyText?.map (·, value)
  | .skipped => none
  | .failed _ => none

/-- The members that elements make, in order. -/
def members (verdicts : List Verdict) : Entries Json :=
  verdicts.filterMap member?

/-- The entries of all elements can be added. -/
structure AllEnter (verdicts : List Verdict) : Prop where
  succeed : ∀ error, .failed error ∉ verdicts
  keyed :
    ∀ key value, .pair key value ∈ verdicts → ∃ text, key.keyText? = some text
  distinct : (Entries.keys (members verdicts)).Nodup

/-- After the entries of some elements, the entry of another one at a place
cannot be added. -/
inductive Offends (place : ResponsePath) (before : List Verdict) :
    Verdict → ExtractionError → Prop where
  | failed {error : ExtractionError} :
      Offends place before (.failed error) error
  | key {key value : Json} :
      key.keyText? = none →
        Offends place before (.pair key value) (.invalidKey place key.kind)
  | again {key value : Json} {text : String} :
      key.keyText? = some text → text ∈ Entries.keys (members before) →
      Offends place before (.pair key value) (.duplicateKey place text)

/-- An element of a list is the first one that offends. -/
structure FirstOffends (list : ResponsePath) (verdicts before : List Verdict)
    (verdict : Verdict) (error : ExtractionError) : Prop where
  split : ∃ after, verdicts = before ++ verdict :: after
  enter : AllEnter before
  offends : verdict.Offends (list ++ [.index before.length]) before error

/-- The dictionary that is built from the elements of a list, or the error. -/
inductive Collects (list : ResponsePath) (verdicts : List Verdict) :
    Except ExtractionError (Entries Json) → Prop where
  | all : AllEnter verdicts → Collects list verdicts (.ok (members verdicts))
  | offended {before : List Verdict} {verdict : Verdict}
      {error : ExtractionError} :
      FirstOffends list verdicts before verdict error →
        Collects list verdicts (.error error)

variable {list place : ResponsePath} {verdicts before : List Verdict}
  {verdict : Verdict} {error : ExtractionError}

theorem members_append (first second : List Verdict) :
    members (first ++ second) = members first ++ members second :=
  List.filterMap_append

theorem allEnter_nil : AllEnter [] where
  succeed := fun _ member => by cases member
  keyed := fun _ _ member => by cases member
  distinct := List.nodup_nil

/-- An entry that does not offend can be added. -/
theorem AllEnter.concat (enter : AllEnter before)
    (fits : ∀ error, ¬ verdict.Offends place before error) :
    AllEnter (before ++ [verdict]) where
  succeed := by
    intro error member
    rcases List.mem_append.mp member with early | last
    · exact enter.succeed error early
    · obtain rfl := List.mem_singleton.mp last
      exact fits error .failed
  keyed := by
    intro key value member
    rcases List.mem_append.mp member with early | last
    · exact enter.keyed key value early
    · obtain rfl := List.mem_singleton.mp last
      exact Option.ne_none_iff_exists'.mp
        fun unwritten => fits _ (.key unwritten)
  distinct := by
    rw [members_append, Entries.keys, List.map_append]
    refine List.nodup_append.mpr ⟨enter.distinct, ?_, ?_⟩
    · cases verdict with
      | pair key value =>
        cases written : key.keyText? <;> simp [members, member?, written]
      | skipped => exact List.nodup_nil
      | failed error => exact List.nodup_nil
    · rintro text known _ last rfl
      cases verdict with
      | pair key value =>
          cases written : key.keyText? with
          | none => simp [members, member?, written] at last
          | some name =>
              obtain rfl : text = name := by
                simpa [members, member?, written] using last
              exact fits _ (.again written known)
      | skipped => cases last
      | failed error => cases last

/-- Where all entries can be added, none offends. -/
theorem AllEnter.not_offends {after : List Verdict}
    (enter : AllEnter (before ++ verdict :: after)) :
    ¬ verdict.Offends place before error := by
  have member : verdict ∈ before ++ verdict :: after :=
    List.mem_append_right _ List.mem_cons_self
  intro offends
  cases offends with
  | failed => exact enter.succeed _ member
  | key unwritten =>
      obtain ⟨text, written⟩ := enter.keyed _ _ member
      rw [unwritten] at written
      cases written
  | @again key value text written known =>
      have distinct := enter.distinct
      have made : (Verdict.pair key value).member? = some (text, value) := by
        simp [member?, written]
      rw [members_append, Entries.keys, List.map_append] at distinct
      refine (List.nodup_append.mp distinct).2.2 text known text ?_ rfl
      simp [members, made]

theorem Offends.unique {other : ExtractionError}
    (first : verdict.Offends place before error)
    (second : verdict.Offends place before other) : error = other := by
  cases first with
  | failed => cases second; rfl
  | key unwritten =>
      cases second with
      | key _ => rfl
      | again written _ => rw [unwritten] at written; cases written
  | again written known =>
      cases second with
      | key unwritten => rw [unwritten] at written; cases written
      | again same _ =>
          rw [written] at same
          rw [Option.some.inj same]

/-- The first element that offends has one error. -/
theorem FirstOffends.unique {early : List Verdict} {another : Verdict}
    {other : ExtractionError}
    (first : FirstOffends list verdicts before verdict error)
    (second : FirstOffends list verdicts early another other) :
    error = other := by
  obtain ⟨after, rfl⟩ := first.split
  obtain ⟨rest, same⟩ := second.split
  rcases List.append_eq_append_iff.mp same with
    ⟨between, rfl, tails⟩ | ⟨between, rfl, tails⟩
  · cases between with
    | nil =>
        obtain ⟨rfl, rfl⟩ := List.cons.inj tails
        have offends := second.offends
        rw [List.append_nil] at offends
        exact first.offends.unique offends
    | cons head between =>
        obtain ⟨rfl, rfl⟩ := List.cons.inj tails
        exact absurd first.offends second.enter.not_offends
  · cases between with
    | nil =>
        obtain ⟨rfl, rfl⟩ := List.cons.inj tails
        have offends := first.offends
        rw [List.append_nil] at offends
        exact offends.unique second.offends
    | cons head between =>
        obtain ⟨rfl, rfl⟩ := List.cons.inj tails
        exact absurd second.offends first.enter.not_offends

variable {outcome : Except ExtractionError (Entries Json)}

theorem Collects.ok_iff (collects : Collects list verdicts outcome)
    {dictionary : Entries Json} :
    outcome = .ok dictionary ↔
      AllEnter verdicts ∧ dictionary = members verdicts := by
  cases collects with
  | all enter =>
      simp only [Except.ok.injEq, enter, true_and]
      exact eq_comm
  | offended first =>
      obtain ⟨after, rfl⟩ := first.split
      constructor
      · intro same
        cases same
      · rintro ⟨enter, _⟩
        exact absurd first.offends enter.not_offends

theorem Collects.error_iff (collects : Collects list verdicts outcome) :
    outcome = .error error ↔
      ∃ before verdict, FirstOffends list verdicts before verdict error := by
  cases collects with
  | all enter =>
      constructor
      · intro same
        cases same
      · rintro ⟨before, verdict, first⟩
        obtain ⟨after, rfl⟩ := first.split
        exact absurd first.offends enter.not_offends
  | offended first =>
      constructor
      · intro same
        obtain rfl := Except.error.inj same
        exact ⟨_, _, first⟩
      · rintro ⟨_, _, second⟩
        rw [first.unique second]

/-- Each element that is not skipped has its member, if all can be added. -/
theorem AllEnter.members_filter (enter : AllEnter verdicts) :
    List.Forall₂
      (fun verdict member => ∃ key text value, verdict = .pair key value ∧
        key.keyText? = some text ∧ member = (text, value))
      (verdicts.filter (!·.isSkipped)) (members verdicts) := by
  obtain ⟨succeed, keyed, distinct⟩ := enter
  clear distinct
  induction verdicts with
  | nil => exact .nil
  | cons verdict verdicts induction =>
      have others := induction
        (fun error member => succeed error (List.mem_cons_of_mem _ member))
        fun key value member => keyed key value (List.mem_cons_of_mem _ member)
      cases verdict with
      | skipped => exact others
      | failed error => exact absurd List.mem_cons_self (succeed error)
      | pair key value =>
          obtain ⟨text, written⟩ := keyed key value List.mem_cons_self
          have made : members (.pair key value :: verdicts) =
              (text, value) :: members verdicts :=
            List.filterMap_cons_some (by simp [member?, written])
          rw [made]
          exact .cons ⟨key, text, value, rfl, written, rfl⟩ others

end Verdict

namespace Evaluate

open Verdict

variable {bindings : Nat → Option Json} {recorded : Pages → Prop}
  {expected : ExtractionError → Prop} {trail : List PathSegment}

theorem dictionaryKey_eq (key : Json) :
    dictionaryKey key =
      match key.keyText? with
      | some text => pure text
      | none => failAt (.invalidKey · key.kind) := by
  cases key <;> rfl

/-- The outcome of adding the entry an element gives. -/
theorem result_insertEntry {before : List Verdict} (enter : AllEnter before)
    {verdict : Verdict} {entry : Json} (gives : verdict.outcome = .ok entry)
    (state : EvaluationState) :
    (((insertEntry (members before) entry).result state).1 =
        .ok (members (before ++ [verdict])) ∧
      AllEnter (before ++ [verdict])) ∨
    ∃ error,
      ((insertEntry (members before) entry).result state).1 = .error error ∧
      verdict.Offends state.path before error := by
  cases verdict with
  | failed error => cases gives
  | skipped =>
      obtain rfl := Except.ok.inj gives
      refine Or.inl ⟨by simp [insertEntry, members, member?], ?_⟩
      exact enter.concat
        fun error (offends : skipped.Offends state.path before error) => by
        cases offends
  | pair key value =>
      obtain rfl := Except.ok.inj gives
      simp only [insertEntry, dictionaryKey_eq]
      cases written : key.keyText? with
      | none =>
        exact Or.inr ⟨.invalidKey state.path key.kind, rfl, .key written⟩
      | some text =>
          simp only [pure_bind]
          by_cases known : text ∈ Entries.keys (members before)
          · have contained : Entries.contains (members before) text = true := by
              rw [Entries.contains_eq_isSome, Option.isSome_iff_ne_none]
              exact fun missing => Entries.lookup?_eq_none_iff.mp missing known
            exact Or.inr ⟨.duplicateKey state.path text, by simp [contained],
              .again written known⟩
          · have fresh : Entries.contains (members before) text = false := by
              rw [Entries.contains_eq_isSome,
                Entries.lookup?_eq_none_iff.mpr known]
              rfl
            have fits :
                ∀ error,
                  ¬ (pair key value).Offends state.path before error := by
              intro error offends
              cases offends with
              | key unwritten => rw [written] at unwritten; cases unwritten
              | again same again =>
                  obtain rfl := Option.some.inj (written.symm.trans same)
                  exact known again
            have added : members (before ++ [.pair key value]) =
                members before ++ [(text, value)] := by
              simp [members, member?, written]
            refine Or.inl ⟨?_, enter.concat fits⟩
            simp [added, fresh, Entries.put_fresh known]

/-- The evaluation of an element at a place comes to the outcome of its
verdict. -/
def Judges (evaluate : Json → Evaluate Json) (bindings : Nat → Option Json)
    (trail : List PathSegment) (item : Json) (verdict : Verdict) : Prop :=
  ∀ state : EvaluationState, state.binding? = bindings → state.trail = trail →
    ((evaluate item).result state).1 = verdict.outcome

variable {evaluate : Json → Evaluate Json}

/-- The evaluation of an element and the addition of its entry. -/
theorem result_addEntry {item : Json} {before : List Verdict}
    {verdict : Verdict}
    (settles : Settles bindings recorded expected Json.IsEntry (evaluate item))
    (judges :
      Judges evaluate bindings (.index before.length :: trail) item verdict)
    (enter : AllEnter before) {state : EvaluationState}
    (bound : state.binding? = bindings) (place : state.trail = trail) :
    let adding := within (.index before.length) (do
      let entry ← evaluate item
      insertEntry (members before) entry)
    ((adding.result state).1 = .ok (members (before ++ [verdict])) ∧
      AllEnter (before ++ [verdict])) ∨
    ∃ error, (adding.result state).1 = .error error ∧
      verdict.Offends (trail.reverse ++ [.index before.length]) before
        error := by
  subst trail
  let inside : EvaluationState :=
    { state with trail := .index before.length :: state.trail }
  have boundInside : inside.binding? = bindings := bound
  have judged := judges inside boundInside rfl
  have stays := settles.trail boundInside
  simp only [result_within, result_bind]
  cases evaluated : (evaluate item).result inside with
  | mk result later =>
      rw [evaluated] at judged stays
      have samePath :
          later.path = state.trail.reverse ++ [.index before.length] := by
        rw [EvaluationState.path, stays]
        exact List.reverse_cons
      cases result with
      | error error =>
          have failed : verdict = .failed error := by
            cases verdict with
            | failed other => rw [Except.error.inj judged]
            | skipped => cases judged
            | pair key value => cases judged
          subst verdict
          exact Or.inr ⟨error, rfl, .failed⟩
      | ok entry =>
          rw [← samePath]
          exact result_insertEntry enter judged.symm later

/-- The entries of a list are added one after the other. -/
theorem addEntries_collects {items : List Json}
    (settles :
      ∀ item ∈ items,
        Settles bindings recorded expected Json.IsEntry (evaluate item))
    (invalid : ∀ path found, expected (.invalidKey path found))
    (duplicate : ∀ path key, expected (.duplicateKey path key))
    {before verdicts : List Verdict} (enter : AllEnter before)
    (judged : List.Forall₂ (fun indexed verdict =>
        Judges evaluate bindings (.index indexed.2 :: trail) indexed.1 verdict)
      (items.zipIdx before.length) verdicts)
    {state : EvaluationState} (bound : state.binding? = bindings)
    (place : state.trail = trail) :
    Collects trail.reverse (before ++ verdicts)
      ((addEntries evaluate items before.length (members before)).result
        state).1 := by
  induction items generalizing before verdicts state with
  | nil =>
      cases judged
      simp only [List.append_nil]
      exact .all enter
  | cons item items induction =>
      rw [List.zipIdx_cons] at judged
      cases judged with
      | @cons _ verdict _ verdicts here others =>
          have added :=
            result_addEntry (settles item List.mem_cons_self) here enter bound
              place
          have kept : Settles bindings recorded expected (fun _ => True)
              (within (.index before.length) (do
                let entry ← evaluate item
                insertEntry (members before) entry)) :=
            settles_within
              ((settles item List.mem_cons_self).bind fun entry shape =>
              insertEntry_settles shape invalid duplicate)
          have boundLater := kept.restored bound
          have placeLater := (kept.trail bound).trans place
          rw [addEntries, result_bind]
          cases outcome : (within (.index before.length) (do
              let entry ← evaluate item
              insertEntry (members before) entry)).result state with
          | mk result later =>
              simp only [outcome] at added boundLater placeLater
              rcases added with ⟨rfl, enterLater⟩ | ⟨error, rfl, offends⟩
              · have rest := induction
                  (fun other member =>
                    settles other (List.mem_cons_of_mem _ member)) enterLater
                  (by simpa using others) boundLater placeLater
                simpa using rest
              · exact .offended ⟨⟨verdicts, rfl⟩, enter, offends⟩

end Evaluate

end GraphPipeline
