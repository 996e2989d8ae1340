import GraphPipeline.Proofs.Evaluation.Disciplines

/-!
# Restored contexts

An evaluation leaves the way to the current value and the bindings as it found
them, whether it gives a value or fails.  The pages that are recorded stay
recorded, and no connection is recorded twice.  This holds of every program from
every state: no parameter need be bound and no value need be of the type the
program expects.
-/

namespace GraphPipeline

theorem Pages.lookup?_of_prefix {before after : Pages}
    (early : before <+: after)
    {id : SubqueryId} {page : Page} (found : before.lookup? id = some page) :
    after.lookup? id = some page := by
  obtain ⟨later, rfl⟩ := early
  obtain ⟨entry, first, rfl⟩ := Option.map_eq_some_iff.mp found
  rw [Pages.lookup?, List.find?_append, first]
  rfl

/-- A recorded page makes its connection one that is known. -/
theorem Pages.notMem_of_lookup?_eq_none {pages : Pages} {id : SubqueryId}
    (unknown : pages.lookup? id = none) : id ∉ pages.map Prod.fst := by
  intro member
  obtain ⟨entry, listed, rfl⟩ := List.mem_map.mp member
  have differs :=
    List.find?_eq_none.mp (Option.map_eq_none_iff.mp unknown) entry listed
  simp at differs

/-- What an evaluation leaves as it was.  Beyond the bindings there may be room
for more of them, and beyond the recorded pages there may be first pages of
other connections. -/
structure EvaluationState.Restored (before after : EvaluationState) : Prop where
  trail : after.trail = before.trail
  bindings :
    ∃ unset, after.bindings = before.bindings ++ List.replicate unset none
  pages : before.pages <+: after.pages
  once : (before.pages.map Prod.fst).Nodup → (after.pages.map Prod.fst).Nodup

namespace EvaluationState

variable {before after : EvaluationState}

/-- A change of what belongs to the current element alone. -/
theorem Restored.of_same (trail : after.trail = before.trail)
    (bindings : after.bindings = before.bindings)
    (pages : after.pages = before.pages) :
    before.Restored after where
  trail := trail
  bindings := ⟨0, by rw [bindings, List.replicate_zero, List.append_nil]⟩
  pages := by rw [pages]
  once := by rw [pages]; exact id

theorem Restored.refl (state : EvaluationState) : state.Restored state :=
  .of_same rfl rfl rfl

theorem Restored.trans {first second third : EvaluationState}
    (early : first.Restored second) (late : second.Restored third) :
    first.Restored third where
  trail := late.trail.trans early.trail
  bindings := by
    obtain ⟨unset, same⟩ := early.bindings
    obtain ⟨more, sameLater⟩ := late.bindings
    refine ⟨unset + more, ?_⟩
    rw [sameLater, same, List.append_assoc, List.replicate_append_replicate]
  pages := early.pages.trans late.pages
  once := fun distinct => late.once (early.once distinct)

/-- What is bound at a depth, once there is room for it. -/
theorem getElem?_append_replicate_binding (state : EvaluationState)
    (depth : Nat) :
    (state.bindings ++
      List.replicate (depth + 1 - state.bindings.length) none)[depth]? =
      some (state.binding? depth) := by
  unfold binding?
  rcases Nat.lt_or_ge depth state.bindings.length with inside | beyond
  · rw [List.getElem?_append_left inside, List.getElem?_eq_getElem inside]
    rfl
  · have room :
        depth - state.bindings.length < depth + 1 - state.bindings.length := by
      omega
    rw [List.getElem?_append_right beyond, List.getElem?_eq_none beyond,
      List.getElem?_replicate, if_pos room]
    rfl

/-- A binding that replaced another one gives way to it again. -/
theorem Restored.rebind {state last : EvaluationState} {depth : Nat}
    {value : Option Json}
    (restored : (state.rebind depth value).Restored last) :
    state.Restored (last.rebind depth (state.binding? depth)) where
  trail := restored.trail
  bindings := by
    obtain ⟨unset, same⟩ := restored.bindings
    have known := state.getElem?_append_replicate_binding depth
    have sameRebound : (state.rebind depth value).bindings =
        (state.bindings ++
          List.replicate (depth + 1 - state.bindings.length) none).set
          depth value := rfl
    rw [sameRebound] at same
    generalize roomFor : depth + 1 - state.bindings.length = room at known same
    obtain ⟨inside, found⟩ := List.getElem?_eq_some_iff.mp known
    have enough : depth + 1 - last.bindings.length = 0 := by
      rw [same, List.length_append, List.length_set]
      omega
    refine ⟨room + unset, ?_⟩
    calc
      (last.rebind depth (state.binding? depth)).bindings
        = last.bindings.set depth (state.binding? depth) := by
          simp only [EvaluationState.rebind, enough, List.replicate_zero,
            List.append_nil]
      _ =
        (state.bindings ++ List.replicate room none).set depth
          (state.binding? depth) ++
            List.replicate unset none := by
          rw [same, List.set_append_left _ _ (by simpa using inside),
            List.set_set]
      _ = state.bindings ++ List.replicate (room + unset) none := by
          rw [← found, List.set_getElem_self, List.append_assoc,
            List.replicate_append_replicate]
  pages := restored.pages
  once := restored.once

/-- There is nothing in the room that was made for more bindings. -/
theorem Restored.binding?_eq (restored : before.Restored after) :
    after.binding? = before.binding? := by
  obtain ⟨unset, same⟩ := restored.bindings
  funext depth
  unfold binding?
  rw [same]
  rcases Nat.lt_or_ge depth before.bindings.length with inside | beyond
  · rw [List.getElem?_append_left inside]
  · rw [List.getElem?_append_right beyond, List.getElem?_eq_none beyond,
      List.getElem?_replicate]
    split <;> rfl

/-- A first page of a connection is one more. -/
theorem Restored.recorded {state : EvaluationState} {id : SubqueryId}
    (page : Page) (unknown : state.pages.lookup? id = none) :
    state.Restored { state with pages := state.pages ++ [(id, page)] } where
  trail := rfl
  bindings := ⟨0, (List.append_nil _).symm⟩
  pages := List.prefix_append _ _
  once := by
    intro distinct
    rw [List.map_append, List.map_singleton, List.nodup_append']
    exact ⟨distinct, List.nodup_singleton _,
      List.disjoint_singleton.mpr (Pages.notMem_of_lookup?_eq_none unknown)⟩

end EvaluationState

namespace Evaluate

theorem restored_discipline : Discipline EvaluationState.Restored where
  refl := .refl
  trans := .trans
  within restored :=
    ⟨by simp only [restored.trail, List.tail_cons], restored.bindings,
     restored.pages, restored.once⟩
  binding := .rebind
  absent _ := .of_same rfl rfl rfl
  noted _ _ := .of_same rfl rfl rfl
  passed _ := .of_same rfl rfl rfl
  recorded := .recorded

/-- The filters that the elements of a list come to are not among what is
restored. -/
theorem restored_listDiscipline : ListDiscipline EvaluationState.Restored where
  toDiscipline := restored_discipline
  mapped := by
    intro filters evaluate each items state
    have mapped :
        Preserves EvaluationState.Restored
          (mapItems filters evaluate items 0) :=
      mapItems_preserves restored_discipline (fun _ _ _ => .of_same rfl rfl rfl)
        each items 0
    exact (mapped state).trans (.of_same rfl rfl rfl)

/-- A list that is mapped leaves the filters around it as they were: those its
own elements come to are isolated from them. -/
theorem mapList_spares_filters (given : Option AllNodes) (filters : Nat)
    (inner : Program) (value : Json) (state : EvaluationState) :
    let after :=
  ((Evaluate.program given (.mapList filters inner) value).result state).2
    after.pendingFilters = state.pendingFilters ∧
      after.rejected = state.rejected := by
  unfold Evaluate.program itemsOf
  rw [result_bind, result_atPath]
  dsimp only
  split
  · rename_i items later listed
    obtain rfl := congrArg Prod.snd listed
    rw [result_bind, result_isolated]
    split
    · rename_i outputs last mapped
      obtain rfl := congrArg Prod.snd mapped
      exact ⟨rfl, rfl⟩
    · rename_i error last failed
      obtain rfl := congrArg Prod.snd failed
      exact ⟨rfl, rfl⟩
  · rename_i error later failed
    obtain rfl := congrArg Prod.snd failed
    exact ⟨rfl, rfl⟩

/-- Whatever an evaluation results in, its context is restored.  A connection
that is recorded keeps its page, and a list that is mapped spares the filters
around it. -/
theorem program_restores_context (given : Option AllNodes) (program : Program)
    (value : Json) (state : EvaluationState) :
    let after := ((Evaluate.program given program value).result state).2
    state.Restored after ∧
      (∀ id page, state.pages.lookup? id = some page →
        after.pages.lookup? id = some page) ∧
      ∀ filters inner, program = .mapList filters inner →
        after.pendingFilters = state.pendingFilters ∧
          after.rejected = state.rejected := by
  have restored :=
    program_preserves restored_listDiscipline given program value state
  refine ⟨restored, fun id page => Pages.lookup?_of_prefix restored.pages, ?_⟩
  rintro filters inner rfl
  exact mapList_spares_filters given filters inner value state

end Evaluate

end GraphPipeline
