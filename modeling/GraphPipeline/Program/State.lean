import GraphPipeline.Program.Page

/-!
# The state of an evaluation

While a program is evaluated, the state holds the way from the root of the data
to the current value, the values bound by projections, the pages that have been
read, and how far the current element of a list has come through its filters.
An evaluation that fails leaves a state too.
-/

namespace GraphPipeline

/-- The trail is the path of the current value, its last segment first.
Bindings are indexed by their depth.  An element is rejected when it becomes
absent while filters of its list are still pending, and `absentAt` is the trail
at which the last absent value was found. -/
structure EvaluationState where
  bindings : List (Option Json)
  trail : List PathSegment
  pages : Pages
  pendingFilters : Nat
  rejected : Bool
  absentAt : Option (List PathSegment)

/-- An evaluation of a part of a program. -/
abbrev Evaluate := ExceptT ExtractionError (StateM EvaluationState)

/-- The value of an evaluation, or its error, with the state it leaves. -/
def Evaluate.result {α : Type} (action : Evaluate α) (state : EvaluationState) :
    Except ExtractionError α × EvaluationState :=
  action.run.run state

namespace EvaluationState

/-- The state at the root of the data. -/
def initial (data : Json) : EvaluationState :=
  { bindings := [some data]
    trail := []
    pages := []
    pendingFilters := 0
    rejected := false
    absentAt := none }

/-- The path of the current value. -/
def path (state : EvaluationState) : ResponsePath :=
  state.trail.reverse

def binding? (state : EvaluationState) (depth : Nat) : Option Json :=
  (state.bindings[depth]?).join

/-- The state with the binding at a depth replaced. -/
def rebind (state : EvaluationState) (depth : Nat) (value : Option Json) :
    EvaluationState :=
  let missing := depth + 1 - state.bindings.length
  { state with
    bindings :=
      (state.bindings ++ List.replicate missing none).set depth value }

/-- The current value is absent.  Before the last filter on the elements of a
list, this leaves the element out. -/
def markAbsent (state : EvaluationState) : EvaluationState :=
  { state with
    rejected := state.rejected || 0 < state.pendingFilters
    absentAt := some state.trail }

end EvaluationState

namespace Evaluate

variable {α : Type}

/-- An evaluation between two changes of the state, the second of which is made
also when it fails. -/
def between (before : EvaluationState → EvaluationState)
    (after : EvaluationState → EvaluationState) (action : Evaluate α) :
    Evaluate α :=
  ExceptT.mk do
    modify before
    let result ← action.run
    modify after
    pure result

/-- An evaluation at a part of the current value. -/
def within (segment : PathSegment) (action : Evaluate α) : Evaluate α :=
  between (fun state => { state with trail := segment :: state.trail })
    (fun state => { state with trail := state.trail.tail }) action

/-- An evaluation with a value bound at a depth. -/
def binding (depth : Nat) (value : Json) (action : Evaluate α) :
    Evaluate α := do
  let state ← get
  between (fun state => state.rebind depth (some value))
    (fun inner => inner.rebind depth (state.binding? depth)) action

/-- An evaluation that leaves the filters of the surrounding list alone. -/
def isolated (action : Evaluate α) : Evaluate α := do
  let state ← get
  between id
    (fun inner =>
      { inner with
        pendingFilters := state.pendingFilters
        rejected := state.rejected }) action

/-- An evaluation that fails, the error being made from the current path. -/
def failAt (error : ResponsePath → ExtractionError) : Evaluate α := do
  let state ← get
  throw (error state.path)

/-- The value of a pure computation at the current path. -/
def atPath (compute : ResponsePath → Except ExtractionError α) :
    Evaluate α := do
  let state ← get
  match compute state.path with
  | .ok value => pure value
  | .error error => throw error

/-- The current value is absent: the result is null. -/
def absent : Evaluate Json := do
  modify EvaluationState.markAbsent
  pure .null

end Evaluate

end GraphPipeline
