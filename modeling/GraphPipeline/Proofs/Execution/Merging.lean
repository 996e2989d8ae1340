import GraphPipeline.Execution.Client
import GraphPipeline.Proofs.Entries

/-!
# Merged pages

Data in which the nodes of some connections are replaced by the nodes of all
their pages.  What lies beside the replaced nodes stays the same, and what lies
above them stays an object.
-/

namespace GraphPipeline

namespace Json

/-- The value with what a path of keys leads to replaced.  Nothing is replaced
if the path leads nowhere. -/
def replaceAt (replacement : Json) : List String → Json → Json
  | [], _ => replacement
  | key :: path, .object members =>
      match Entries.lookup? members key with
      | some member =>
        .object (Entries.put members key (replaceAt replacement path member))
      | none => .object members
  | _ :: _, value => value

/-- Equal values, or two objects. -/
def Similar (value other : Json) : Prop :=
  value = other ∨
    ∃ members others, value = .object members ∧ other = .object others

theorem Similar.refl (value : Json) : value.Similar value :=
  Or.inl rfl

theorem Similar.trans {first second third : Json} (early : first.Similar second)
    (late : second.Similar third) : first.Similar third := by
  rcases early with rfl | ⟨members, middle, rfl, rfl⟩
  · exact late
  · rcases late with rfl | ⟨_, others, _, rfl⟩
    · exact Or.inr ⟨members, middle, rfl, rfl⟩
    · exact Or.inr ⟨members, others, rfl, rfl⟩

theorem member?_replaceAt_same (replacement value : Json) (key : String)
    (path : List String) :
    (replaceAt replacement (key :: path) value).member? key =
      (value.member? key).map (replaceAt replacement path) := by
  cases value with
  | object members =>
      simp only [replaceAt, member?, members?, Option.bind_some]
      cases found : Entries.lookup? members key with
      | none => simpa using found
      | some member => simp [Entries.lookup?_put_same]
  | null => rfl
  | bool value => rfl
  | number value => rfl
  | string value => rfl
  | array items => rfl

theorem member?_replaceAt_other (replacement value : Json) {key other : String}
    (different : key ≠ other) (path : List String) :
    (replaceAt replacement (key :: path) value).member? other =
      value.member? other := by
  cases value with
  | object members =>
      simp only [replaceAt, member?, members?, Option.bind_some]
      cases Entries.lookup? members key with
      | none => rfl
      | some member =>
          simp only [Option.bind_some]
          exact Entries.lookup?_put_other members _ different
  | null => rfl
  | bool value => rfl
  | number value => rfl
  | string value => rfl
  | array items => rfl

theorem similar_replaceAt (replacement value : Json) (key : String)
    (path : List String) :
    value.Similar (replaceAt replacement (key :: path) value) := by
  cases value with
  | object members =>
      simp only [replaceAt]
      split
      · exact Or.inr ⟨_, _, rfl, rfl⟩
      · exact Similar.refl _
  | null => exact Similar.refl _
  | bool value => exact Similar.refl _
  | number value => exact Similar.refl _
  | string value => exact Similar.refl _
  | array items => exact Similar.refl _

end Json

namespace Run

theorem valueAt?_append (path more : List String) (value : Json) :
    valueAt? (path ++ more) value =
      (valueAt? path value).bind (valueAt? more) := by
  induction path generalizing value with
  | nil => rfl
  | cons key path induction =>
      simp only [List.cons_append, valueAt?]
      cases value.member? key with
      | none => rfl
      | some member => exact induction member

/-- What a key leads to below a path. -/
theorem valueAt?_concat (path : List String) (key : String) (value : Json) :
    valueAt? (path ++ [key]) value =
      (valueAt? path value).bind (·.member? key) := by
  rw [valueAt?_append]
  cases valueAt? path value with
  | none => rfl
  | some found =>
      simp only [Option.bind_some, valueAt?]
      cases found.member? key <;> rfl

theorem valueAt?_replaceAt (replacement value : Json)
    (path more : List String) :
    valueAt? path (Json.replaceAt replacement (path ++ more) value) =
      (valueAt? path value).map (Json.replaceAt replacement more) := by
  induction path generalizing value with
  | nil => rfl
  | cons key path induction =>
      simp only [List.cons_append, valueAt?, Json.member?_replaceAt_same]
      cases value.member? key with
      | none => rfl
      | some member => exact induction member

/-- Neither path leads through what the other one leads to. -/
def Apart (path other : List String) : Prop :=
  ¬ path <+: other ∧ ¬ other <+: path

theorem valueAt?_replaceAt_apart (replacement value : Json)
    {path target : List String}
    (apart : Apart path target) :
    valueAt? path (Json.replaceAt replacement target value) =
      valueAt? path value := by
  induction target generalizing path value with
  | nil => exact absurd List.nil_prefix apart.2
  | cons key target induction =>
      cases path with
      | nil => exact absurd List.nil_prefix apart.1
      | cons first path =>
          by_cases same : key = first
          · subst first
            have deeper : Apart path target :=
              ⟨fun before => apart.1 (List.cons_prefix_cons.mpr ⟨rfl, before⟩),
                fun before => apart.2 (List.cons_prefix_cons.mpr ⟨rfl, before⟩)⟩
            simp only [valueAt?, Json.member?_replaceAt_same]
            cases value.member? key with
            | none => rfl
            | some member => exact induction member deeper
          · simp only [valueAt?, Json.member?_replaceAt_other _ _ same]

/-- A path that does not go through the replaced part leads to similar
values. -/
theorem similar_valueAt?_replaceAt (replacement value : Json)
    {path target : List String}
    (outside : ¬ target <+: path) :
    Option.Rel Json.Similar (valueAt? path value)
      (valueAt? path (Json.replaceAt replacement target value)) := by
  by_cases above : path <+: target
  · obtain ⟨more, rfl⟩ := above
    rw [valueAt?_replaceAt]
    cases more with
    | nil => exact absurd (by simp) outside
    | cons key more =>
        cases valueAt? path value with
        | none => exact .none
        | some found =>
          exact .some (Json.similar_replaceAt replacement found key more)
  · rw [valueAt?_replaceAt_apart replacement value ⟨above, outside⟩]
    cases valueAt? path value with
    | none => exact .none
    | some found => exact .some (Json.Similar.refl found)

end Run

namespace Pages

/-- The data with the nodes of the connections that have a page replaced. -/
def merge (pages : Pages) (nodes : SubqueryId → List Json) :
    List Subquery → Json → Json
  | [], data => data
  | subquery :: subqueries, data =>
      merge pages nodes subqueries
        (if (pages.lookup? subquery.id).isSome then
          Json.replaceAt (.array (nodes subquery.id))
            (subquery.path ++ [subquery.keys.nodes]) data
        else data)

/-- The path to the nodes of a connection that has a page. -/
def IsTarget (pages : Pages) (subqueries : List Subquery) (path : List String) :
    Prop :=
  ∃ subquery ∈ subqueries, (pages.lookup? subquery.id).isSome = true ∧
    path = subquery.path ++ [subquery.keys.nodes]

variable {pages : Pages} {nodes : SubqueryId → List Json}

theorem valueAt?_merge_apart {subqueries : List Subquery} {path : List String}
    (apart : ∀ target, pages.IsTarget subqueries target → Run.Apart path target)
    (data : Json) :
    Run.valueAt? path (pages.merge nodes subqueries data) =
      Run.valueAt? path data := by
  induction subqueries generalizing data with
  | nil => rfl
  | cons subquery subqueries induction =>
      have others := induction fun target ⟨other, member, recorded, same⟩ =>
        apart target ⟨other, List.mem_cons_of_mem _ member, recorded, same⟩
      rw [merge, others]
      split
      · rename_i recorded
        exact Run.valueAt?_replaceAt_apart _ _
          (apart _ ⟨subquery, List.mem_cons_self, recorded, rfl⟩)
      · rfl

private theorem rel_similar_trans {first second third : Option Json}
    (early : Option.Rel Json.Similar first second)
    (late : Option.Rel Json.Similar second third) :
    Option.Rel Json.Similar first third := by
  cases early with
  | none => exact late
  | some similar =>
      cases late with
      | some others => exact .some (similar.trans others)

/-- Merging leaves similar values wherever it does not replace a part of the
way. -/
theorem similar_merge {subqueries : List Subquery} {path : List String}
    (outside : ∀ target, pages.IsTarget subqueries target → ¬ target <+: path)
    (data : Json) :
    Option.Rel Json.Similar (Run.valueAt? path data)
      (Run.valueAt? path (pages.merge nodes subqueries data)) := by
  induction subqueries generalizing data with
  | nil =>
      rw [merge]
      cases Run.valueAt? path data with
      | none => exact .none
      | some value => exact .some (.refl value)
  | cons subquery subqueries induction =>
      have others := induction fun target ⟨other, member, recorded, same⟩ =>
        outside target ⟨other, List.mem_cons_of_mem _ member, recorded, same⟩
      rw [merge]
      split
      · rename_i recorded
        exact rel_similar_trans (Run.similar_valueAt?_replaceAt _ _
          (outside _ ⟨subquery, List.mem_cons_self, recorded, rfl⟩)) (others _)
      · exact others data

/-- The replaced nodes stand where the nodes of the first page stood. -/
theorem valueAt?_merge_target {subqueries : List Subquery} {subquery : Subquery}
    (member : subquery ∈ subqueries)
    (recorded : (pages.lookup? subquery.id).isSome = true)
    (apart : ∀ other ∈ subqueries, (pages.lookup? other.id).isSome = true →
      other = subquery ∨ Run.Apart (subquery.path ++ [subquery.keys.nodes])
        (other.path ++ [other.keys.nodes]))
    (data : Json) :
    Run.valueAt? (subquery.path ++ [subquery.keys.nodes])
        (pages.merge nodes subqueries data) =
      (Run.valueAt? (subquery.path ++ [subquery.keys.nodes]) data).map fun _ =>
        .array (nodes subquery.id) := by
  have replaced : ∀ data,
      Run.valueAt? (subquery.path ++ [subquery.keys.nodes])
          (Json.replaceAt (.array (nodes subquery.id))
            (subquery.path ++ [subquery.keys.nodes]) data) =
        (Run.valueAt? (subquery.path ++ [subquery.keys.nodes])
          data).map fun _ =>
          .array (nodes subquery.id) := by
    intro data
    have whole := Run.valueAt?_replaceAt (.array (nodes subquery.id)) data
      (subquery.path ++ [subquery.keys.nodes]) []
    rw [List.append_nil] at whole
    rw [whole]
    rfl
  induction subqueries generalizing data with
  | nil => cases member
  | cons head subqueries induction =>
      have later :=
        fun other inside => apart other (List.mem_cons_of_mem head inside)
      rw [merge]
      by_cases inside : subquery ∈ subqueries
      · rw [induction inside later]
        split
        · rename_i headRecorded
          rcases apart head List.mem_cons_self headRecorded with rfl | headApart
          · rw [replaced, Option.map_map]
            rfl
          · rw [Run.valueAt?_replaceAt_apart _ _ headApart]
        · rfl
      · have same : subquery = head :=
          (List.mem_cons.mp member).resolve_right inside
        subst same
        rw [valueAt?_merge_apart, if_pos recorded, replaced]
        rintro target ⟨other, otherMember, otherRecorded, rfl⟩
        refine (later other otherMember otherRecorded).resolve_left ?_
        rintro rfl
        exact inside otherMember

end Pages

end GraphPipeline
