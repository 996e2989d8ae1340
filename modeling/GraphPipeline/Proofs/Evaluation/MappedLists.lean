import GraphPipeline.Proofs.Evaluation.Runs

/-!
# Lists that are filtered

The list a program maps, and the way of each element through the program.  An
element is left out exactly if it does not come through the first filters on its
way, as many as the list counts.
-/

namespace GraphPipeline

namespace Program

/-- The types of the filters on the way of a value through a program, up to
where the way parts or a list begins. -/
def filterTypes : Program → List String
  | .field _ inner => inner.filterTypes
  | .optional inner => inner.filterTypes
  | .narrow typeName .filter inner => typeName :: inner.filterTypes
  | .narrow _ .cast inner => inner.filterTypes
  | .bind _ inner => inner.filterTypes
  | .parameter _ inner => inner.filterTypes
  | _ => []

/-- Whether a value comes through a number of filters, the first ones on its
way.  It comes through a filter if it arrives there as an object of the type of
the filter. -/
def passes : Program → Nat → (Nat → Option Json) → Json → Bool
  | _, 0, _, _ => true
  | .field key inner, count + 1, bindings, value =>
      match value.member? key with
      | some member => inner.passes (count + 1) bindings member
      | none => false
  | .optional inner, count + 1, bindings, value =>
      !value.isNull && inner.passes (count + 1) bindings value
  | .narrow typeName .filter inner, count + 1, bindings, value =>
      value.typename? == some typeName && inner.passes count bindings value
  | .narrow typeName .cast inner, count + 1, bindings, value =>
      value.typename? == some typeName &&
        inner.passes (count + 1) bindings value
  | .bind depth inner, count + 1, bindings, value =>
      inner.passes (count + 1) (Function.update bindings depth (some value))
        value
  | .parameter depth inner, count + 1, bindings, _ =>
      match bindings depth with
      | some element => inner.passes (count + 1) bindings element
      | none => false
  | _, _ + 1, _, _ => false

/-- The filters that are counted on the list a program maps, and the program of
its elements. -/
def mapping? : Program → Option (Nat × Program)
  | .mapList filters inner => some (filters, inner)
  | .field _ inner => inner.mapping?
  | .optional inner => inner.mapping?
  | .narrow _ _ inner => inner.mapping?
  | .enforceSingle inner => inner.mapping?
  | .subquerySink _ _ inner => inner.mapping?
  | .bind _ inner => inner.mapping?
  | .parameter _ inner => inner.mapping?
  | _ => none

/-- The elements of the list a program maps when it is evaluated on a value, and
what is bound there. -/
def list? (given : Option AllNodes) :
    Program → (Nat → Option Json) → Json →
      Option ((Nat → Option Json) × List Json)
  | .mapList _ _, bindings, .array items => some (bindings, items)
  | .field key inner, bindings, value =>
      match value.member? key with
      | some member => inner.list? given bindings member
      | none => none
  | .optional inner, bindings, value =>
      if value.isNull then none else inner.list? given bindings value
  | .narrow typeName _ inner, bindings, value =>
      if value.typename? = some typeName then inner.list? given bindings value
      else none
  | .enforceSingle inner, bindings, value => inner.list? given bindings value
  | .subquerySink id keys inner, bindings, value =>
      match Reading.nodes? given ⟨id, keys, value⟩ with
      | some nodes => inner.list? given bindings nodes
      | none => none
  | .bind depth inner, bindings, value =>
      inner.list? given (Function.update bindings depth (some value)) value
  | .parameter depth inner, bindings, _ =>
      match bindings depth with
      | some element => inner.list? given bindings element
      | none => none
  | _, _, _ => none

/-- With some bindings, a program gives an output for a value. -/
def Gives (given : Option AllNodes) (bindings : Nat → Option Json)
    (program : Program) (value output : Json) : Prop :=
  ∃ before after,
    (Evaluate.program given program value).Runs before output after ∧
    before.binding? = bindings

end Program

/-- An absent value and an object of another type are not of the type. -/
theorem Json.typename?_ne {value : Json} {typeName : String}
    (absence :
      value.isNull = true ∨
        ∃ name, value.typename? = some name ∧ name ≠ typeName) :
    value.typename? ≠ some typeName := by
  intro same
  rcases absence with null | ⟨name, named, different⟩
  · cases value with
    | null => cases same
    | _ => cases null
  · rw [same] at named
    exact different (Option.some.inj named).symm

namespace Evaluate

variable {given : Option AllNodes}

/-- An element that is evaluated with filters pending is rejected unless it
comes through them. -/
theorem program_verdict (program : Program) {before after : EvaluationState}
    {bindings : Nat → Option Json} {count : Nat} {value output : Json}
    (run : (Evaluate.program given program value).Runs before output after)
    (bound : before.binding? = bindings)
    (pending : before.pendingFilters = count) (fresh : before.rejected = false)
    (enough : count ≤ program.filterTypes.length) :
    after.rejected = !program.passes count bindings value := by
  cases count with
  | zero =>
      rw [(((program_calm given program value).spares run).verdict pending).2,
        fresh]
      simp [Program.passes]
  | succ count =>
      cases program with
      | field key inner =>
          simp only [Evaluate.program, runs_bind, runs_memberOf,
            runs_within] at run
          obtain ⟨member, _, ⟨found, rfl⟩, last, inside, rfl⟩ := run
          simp only [Program.passes, found]
          exact program_verdict inner inside bound pending fresh enough
      | optional inner =>
          simp only [Evaluate.program] at run
          cases absence : value.isNull with
          | true =>
              simp only [absence, if_true, runs_absent] at run
              obtain ⟨rfl, rfl⟩ := run
              simp [Program.passes, absence, EvaluationState.markAbsent,
                pending]
          | false =>
              simp only [absence, Bool.false_eq_true, if_false] at run
              simp only [Program.passes, absence, Bool.not_false, Bool.true_and]
              exact program_verdict inner run bound pending fresh enough
      | narrow typeName mode inner =>
          simp only [Evaluate.program] at run
          cases mode with
          | filter =>
              rcases runs_narrowed_filter.mp run with
                ⟨named, inside⟩ | ⟨absence, rfl, rfl⟩
              · simp only [Program.passes, named, beq_self_eq_true,
                  Bool.true_and]
                apply program_verdict inner inside bound _ fresh
                  (Nat.le_of_succ_le_succ enough)
                simp only [pending, Nat.add_sub_cancel]
              · have other := Json.typename?_ne absence
                simp [Program.passes, other, EvaluationState.markAbsent,
                  pending]
          | cast =>
              obtain ⟨named, inside⟩ := runs_narrowed_cast.mp run
              simp only [Program.passes, named, beq_self_eq_true, Bool.true_and]
              exact program_verdict inner inside bound pending fresh enough
      | bind depth inner =>
          simp only [Evaluate.program, runs_binding] at run
          obtain ⟨last, inside, rfl⟩ := run
          simp only [Program.passes]
          apply program_verdict inner inside _ pending fresh enough
          rw [EvaluationState.binding?_rebind, bound]
      | parameter depth inner =>
          simp only [Evaluate.program, runs_bind, runs_get] at run
          obtain ⟨_, _, ⟨rfl, rfl⟩, run⟩ := run
          rw [bound] at run
          cases known : bindings depth with
          | none => simp only [known, runs_failAt] at run
          | some element =>
              simp only [known] at run
              simp only [Program.passes, known]
              exact program_verdict inner run bound pending fresh enough
      | readScalar key type => simp [Program.filterTypes] at enough
      | mapList filters inner => simp [Program.filterTypes] at enough
      | buildRecord fields => simp [Program.filterTypes] at enough
      | enforceSingle inner => simp [Program.filterTypes] at enough
      | toDictionary entry => simp [Program.filterTypes] at enough
      | keyValue key inner => simp [Program.filterTypes] at enough
      | subquerySink id keys inner => simp [Program.filterTypes] at enough
termination_by structural program

/-- The outputs are those of the elements that come through the filters of the
list. -/
theorem mapItems_filters {filters : Nat} {inner : Program}
    (enough : filters ≤ inner.filterTypes.length) {items : List Json}
    {index : Nat} {before after : EvaluationState}
    {bindings : Nat → Option Json} {outputs : List Json}
    (run :
      (mapItems filters (Evaluate.program given inner) items index).Runs before
        outputs after)
    (bound : before.binding? = bindings) :
    List.Forall₂ (inner.Gives given bindings)
      (items.filter (inner.passes filters bindings))
      outputs := by
  induction items generalizing index before after outputs with
  | nil =>
      obtain ⟨rfl, _⟩ := runs_pure.mp run
      exact .nil
  | cons item items induction =>
      simp only [mapItems, runs_bind, runs_modify, runs_within, runs_get,
        runs_pure] at run
      obtain ⟨_, _, rfl, output, _, ⟨last, here, rfl⟩, _, _, ⟨rfl, rfl⟩, others,
        _, rest, rfl, _⟩ := run
      have verdict := program_verdict inner here bound rfl rfl enough
      have restored := ((program_calm given inner item).spares here).bindings
      have later := induction rest (restored.trans bound)
      have gives : inner.Gives given bindings item output :=
        ⟨_, last, here, bound⟩
      cases passed : inner.passes filters bindings item with
      | true =>
          simp only [verdict, passed, Bool.not_true, Bool.false_eq_true,
            if_false]
          rw [List.filter_cons_of_pos passed]
          exact .cons gives later
      | false =>
          simp only [verdict, passed, Bool.not_false, if_true]
          rw [List.filter_cons_of_neg (by simp [passed])]
          exact later

/-- A program that maps a list gives its elements' outputs, or null if there is
no list. -/
theorem program_list (program : Program) {inner : Program} {filters : Nat}
    (maps : program.mapping? = some (filters, inner))
    {before after : EvaluationState} {bindings : Nat → Option Json}
    {value output : Json}
    (run : (Evaluate.program given program value).Runs before output after)
    (bound : before.binding? = bindings) :
    (program.list? given bindings value = none ∧ output = .null) ∨
      ∃ inside items outputs first last,
        program.list? given bindings value = some (inside, items) ∧
        output = .array outputs ∧ first.binding? = inside ∧
        (mapItems filters (Evaluate.program given inner) items 0).Runs first
          outputs last := by
  cases program with
  | mapList count element =>
      obtain ⟨rfl, rfl⟩ := Prod.mk.inj (Option.some.inj maps)
      simp only [Evaluate.program, runs_bind, runs_itemsOf, runs_isolated,
        runs_pure] at run
      obtain ⟨items, _, ⟨rfl, rfl⟩, outputs, _, ⟨last, mapped, _⟩, rfl, _⟩ :=
        run
      exact Or.inr ⟨bindings, items, outputs, before, last, rfl, rfl, bound,
        mapped⟩
  | field key inner =>
      simp only [Evaluate.program, runs_bind, runs_memberOf, runs_within] at run
      obtain ⟨member, _, ⟨found, rfl⟩, last, inside, rfl⟩ := run
      simp only [Program.list?, found]
      exact program_list inner maps inside bound
  | optional inner =>
      simp only [Evaluate.program] at run
      cases absence : value.isNull with
      | true =>
          simp only [absence, if_true, runs_absent] at run
          simp only [Program.list?, absence, if_true]
          exact Or.inl ⟨trivial, run.1.symm⟩
      | false =>
          simp only [absence, Bool.false_eq_true, if_false] at run
          simp only [Program.list?, absence, Bool.false_eq_true, if_false]
          exact program_list inner maps run bound
  | narrow typeName mode inner =>
      simp only [Evaluate.program] at run
      simp only [Program.list?]
      cases mode with
      | filter =>
          rcases runs_narrowed_filter.mp run with
            ⟨named, inside⟩ | ⟨absence, null, _⟩
          · rw [if_pos named]
            exact program_list inner maps inside bound
          · rw [if_neg (Json.typename?_ne absence)]
            exact Or.inl ⟨rfl, null.symm⟩
      | cast =>
          obtain ⟨named, inside⟩ := runs_narrowed_cast.mp run
          rw [if_pos named]
          exact program_list inner maps inside bound
  | enforceSingle inner =>
      simp only [Evaluate.program] at run
      exact program_list inner maps (runs_required run) bound
  | subquerySink id keys inner =>
      simp only [Evaluate.program, runs_bind, runs_within] at run
      obtain ⟨nodes, middle, read, last, inside, rfl⟩ := run
      have restored := ((nodesOf_calm given id keys value).spares read).bindings
      simp only [Program.list?, runs_nodesOf read]
      exact program_list inner maps inside (restored.trans bound)
  | bind depth inner =>
      simp only [Evaluate.program, runs_binding] at run
      obtain ⟨last, inside, rfl⟩ := run
      apply program_list inner maps inside
      rw [EvaluationState.binding?_rebind, bound]
  | parameter depth inner =>
      simp only [Evaluate.program, runs_bind, runs_get] at run
      obtain ⟨_, _, ⟨rfl, rfl⟩, run⟩ := run
      rw [bound] at run
      cases known : bindings depth with
      | none => simp only [known, runs_failAt] at run
      | some element =>
          simp only [known] at run
          simp only [Program.list?, known]
          exact program_list inner maps run bound
  | readScalar key type => cases maps
  | buildRecord fields => cases maps
  | toDictionary entry => cases maps
  | keyValue key inner => cases maps
termination_by structural program

end Evaluate

end GraphPipeline
