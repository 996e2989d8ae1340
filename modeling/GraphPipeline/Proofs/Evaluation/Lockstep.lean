import GraphPipeline.Proofs.Evaluation.Settling

/-!
# Evaluations in step

Three evaluations of one program are compared: an early one that may see only a
part of the nodes of a connection, a late one that is given all nodes beside the
data, and a whole one that finds all nodes in the data.  While they are in step,
the late and the whole one agree, and the early one succeeds if the whole one
does.  Their states are compared in what later values depend on: the bindings,
the filters of the list at hand, and the recorded pages.
-/

namespace GraphPipeline.Evaluate

variable {α β : Type}

/-- What the states of three evaluations in step have in common. -/
structure Abreast (bindings merged : Nat → Option Json)
    (paged : Pages → Pages → Pages → Prop)
    (early late whole : EvaluationState) :
    Prop where
  earlyBindings : early.binding? = bindings
  lateBindings : late.binding? = bindings
  wholeBindings : whole.binding? = merged
  pending : late.pendingFilters = whole.pendingFilters
  rejected : late.rejected = whole.rejected
  pages : paged early.pages late.pages whole.pages

/-- All three evaluations succeed, or the whole one fails with one of the
others. -/
inductive Outcomes
    (abreast : EvaluationState → EvaluationState → EvaluationState → Prop)
    (post : α → α → α → Prop) :
    Except ExtractionError α × EvaluationState →
      Except ExtractionError α × EvaluationState →
        Except ExtractionError α × EvaluationState → Prop where
  | ok {first second third : α} {early late whole : EvaluationState} :
      post first second third → abreast early late whole →
        Outcomes abreast post (.ok first, early) (.ok second, late)
          (.ok third, whole)
  | early {second : Except ExtractionError α × EvaluationState}
      {error other : ExtractionError} {early whole : EvaluationState} :
      Outcomes abreast post (.error error, early) second (.error other, whole)
  | late {first : Except ExtractionError α × EvaluationState}
      {error other : ExtractionError} {late whole : EvaluationState} :
      Outcomes abreast post first (.error error, late) (.error other, whole)

/-- From states abreast, the evaluations stay in step. -/
def InStep (bindings merged : Nat → Option Json)
    (paged : Pages → Pages → Pages → Prop) (post : α → α → α → Prop)
    (early late whole : Evaluate α) : Prop :=
  ∀ first second third, Abreast bindings merged paged first second third →
    Outcomes (Abreast bindings merged paged) post (early.result first)
      (late.result second) (whole.result third)

/-- From any state, the evaluation fails. -/
def Fails (action : Evaluate α) : Prop :=
  ∀ state, ∃ error later, action.result state = (.error error, later)

theorem fails_failAt (error : ResponsePath → ExtractionError) :
    Fails (failAt error : Evaluate α) :=
  fun state => ⟨error state.path, state, rfl⟩

theorem fails_atPath {compute : ResponsePath → Except ExtractionError α}
    (failing : ∀ path, ∃ error, compute path = .error error) :
    Fails (atPath compute) := by
  intro state
  obtain ⟨error, same⟩ := failing state.path
  exact ⟨error, state, by rw [result_atPath, same]⟩

theorem Fails.bind {action : Evaluate α} (fails : Fails action)
    (next : α → Evaluate β) :
    Fails (action >>= next) := by
  intro state
  obtain ⟨error, later, same⟩ := fails state
  exact ⟨error, later, by rw [result_bind, same]⟩

variable {bindings merged : Nat → Option Json}
  {paged : Pages → Pages → Pages → Prop} {post : α → α → α → Prop}
  {after : β → β → β → Prop}

theorem inStep_of_early {early late whole : Evaluate α} (fails : Fails early)
    (wholeFails : Fails whole) :
    InStep bindings merged paged post early late whole := by
  intro first second third _
  obtain ⟨_, _, earlySame⟩ := fails first
  obtain ⟨_, _, wholeSame⟩ := wholeFails third
  rw [earlySame, wholeSame]
  exact .early

theorem inStep_of_late {early late whole : Evaluate α} (fails : Fails late)
    (wholeFails : Fails whole) :
    InStep bindings merged paged post early late whole := by
  intro first second third _
  obtain ⟨_, _, lateSame⟩ := fails second
  obtain ⟨_, _, wholeSame⟩ := wholeFails third
  rw [lateSame, wholeSame]
  exact .late

theorem inStep_pure {first second third : α} (holds : post first second third) :
    InStep bindings merged paged post (pure first) (pure second) (pure third) :=
  fun _ _ _ abreast => .ok holds abreast

theorem inStep_get :
    InStep bindings merged paged (Abreast bindings merged paged) get get get :=
  fun _ _ _ abreast => .ok abreast abreast

/-- A change that keeps states abreast. -/
theorem inStep_modify {change : EvaluationState → EvaluationState}
    (keeps :
      ∀ first second third, Abreast bindings merged paged first second third →
        Abreast bindings merged paged (change first) (change second)
          (change third)) :
    InStep bindings merged paged (fun _ _ _ => True) (modify change)
      (modify change)
      (modify change) :=
  fun _ _ _ abreast => .ok trivial (keeps _ _ _ abreast)

theorem InStep.weaken {other : α → α → α → Prop} {early late whole : Evaluate α}
    (inStep : InStep bindings merged paged post early late whole)
    (implies :
      ∀ first second third,
        post first second third → other first second third) :
    InStep bindings merged paged other early late whole := by
  intro first second third abreast
  have outcomes := inStep first second third abreast
  generalize early.result first = one at outcomes ⊢
  generalize late.result second = two at outcomes ⊢
  generalize whole.result third = three at outcomes ⊢
  cases outcomes with
  | ok holds later => exact .ok (implies _ _ _ holds) later
  | early => exact .early
  | late => exact .late

theorem InStep.bind {early late whole : Evaluate α}
    {earlyNext lateNext wholeNext : α → Evaluate β}
    (first : InStep bindings merged paged post early late whole)
    (second : ∀ one two three, post one two three →
      InStep bindings merged paged after (earlyNext one) (lateNext two)
        (wholeNext three)) :
    InStep bindings merged paged after (early >>= earlyNext) (late >>= lateNext)
      (whole >>= wholeNext) := by
  intro earlyState lateState wholeState abreast
  have outcomes := first _ _ _ abreast
  simp only [result_bind]
  generalize early.result earlyState = one at outcomes ⊢
  generalize late.result lateState = two at outcomes ⊢
  generalize whole.result wholeState = three at outcomes ⊢
  cases outcomes with
  | ok holds later => exact second _ _ _ holds _ _ _ later
  | early => exact .early
  | late => exact .late

theorem inStep_within {segment : PathSegment} {early late whole : Evaluate α}
    (inside : InStep bindings merged paged post early late whole) :
    InStep bindings merged paged post (within segment early)
      (within segment late)
      (within segment whole) := by
  intro first second third abreast
  have outcomes := inside { first with trail := segment :: first.trail }
    { second with trail := segment :: second.trail }
    { third with trail := segment :: third.trail } { abreast with }
  simp only [result_within]
  generalize early.result _ = one at outcomes ⊢
  generalize late.result _ = two at outcomes ⊢
  generalize whole.result _ = three at outcomes ⊢
  cases outcomes with
  | ok holds later => exact .ok holds { later with }
  | early => exact .early
  | late => exact .late

theorem inStep_binding {depth : Nat} {value other : Json}
    {early late whole : Evaluate α}
    (inside : InStep (Function.update bindings depth (some value))
      (Function.update merged depth (some other)) paged post early late whole) :
    InStep bindings merged paged post (binding depth value early)
      (binding depth value late) (binding depth other whole) := by
  intro first second third abreast
  have outcomes :=
    inside (first.rebind depth (some value)) (second.rebind depth (some value))
    (third.rebind depth (some other))
    { earlyBindings := by
        rw [EvaluationState.binding?_rebind, abreast.earlyBindings]
      lateBindings := by
        rw [EvaluationState.binding?_rebind, abreast.lateBindings]
      wholeBindings := by
        rw [EvaluationState.binding?_rebind, abreast.wholeBindings]
      pending := abreast.pending
      rejected := abreast.rejected
      pages := abreast.pages }
  have restored :
      ∀ {state : EvaluationState} {known : Nat → Option Json} {bound : Json},
        state.binding? = Function.update known depth (some bound) →
        (state.rebind depth (known depth)).binding? = known := by
    intro state known bound same
    rw [EvaluationState.binding?_rebind, same, Function.update_idem,
      Function.update_eq_self]
  simp only [result_binding, abreast.earlyBindings, abreast.lateBindings,
    abreast.wholeBindings]
  generalize early.result _ = one at outcomes ⊢
  generalize late.result _ = two at outcomes ⊢
  generalize whole.result _ = three at outcomes ⊢
  cases outcomes with
  | ok holds later =>
      exact .ok holds
        { earlyBindings := restored later.earlyBindings
          lateBindings := restored later.lateBindings
          wholeBindings := restored later.wholeBindings
          pending := later.pending
          rejected := later.rejected
          pages := later.pages }
  | early => exact .early
  | late => exact .late

theorem inStep_isolated {early late whole : Evaluate α}
    (inside : InStep bindings merged paged post early late whole) :
    InStep bindings merged paged post (isolated early) (isolated late)
      (isolated whole) := by
  intro first second third abreast
  have outcomes := inside _ _ _ abreast
  simp only [result_isolated]
  generalize early.result first = one at outcomes ⊢
  generalize late.result second = two at outcomes ⊢
  generalize whole.result third = three at outcomes ⊢
  cases outcomes with
  | ok holds later =>
      exact .ok holds
        { later with pending := abreast.pending, rejected := abreast.rejected }
  | early => exact .early
  | late => exact .late

theorem inStep_absent :
    InStep bindings merged paged (fun first second third =>
      first = .null ∧ second = .null ∧ third = .null) absent absent absent := by
  refine InStep.bind (inStep_modify ?_)
    fun _ _ _ _ => inStep_pure ⟨rfl, rfl, rfl⟩
  intro first second third abreast
  refine { abreast with rejected := ?_ }
  simp only [EvaluationState.markAbsent, abreast.rejected, abreast.pending]

end GraphPipeline.Evaluate
