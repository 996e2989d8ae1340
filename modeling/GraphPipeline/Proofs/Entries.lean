import Mathlib
import GraphPipeline.Entries

/-!
# Looking up entries

What a write to entries leaves under each name.  Reading and writing both go to
the first entry of a name, so a name that is not yet present ends up last.  A
list of assignments leaves every name where it first comes up, with the last
value it is given.
-/

namespace GraphPipeline.Entries

variable {α : Type}

@[simp] theorem lookup?_nil (key : String) :
    lookup? ([] : Entries α) key = none := rfl

theorem lookup?_cons (name : String) (value : α) (entries : Entries α)
    (key : String) :
    lookup? ((name, value) :: entries) key =
      if name = key then some value else lookup? entries key := by
  by_cases same : name = key
  · simp [lookup?, same]
  · simp [lookup?, same]

theorem lookup?_put_same (entries : Entries α) (key : String) (value : α) :
    lookup? (put entries key value) key = some value := by
  induction entries with
  | nil => simp [put, lookup?_cons]
  | cons entry entries induction =>
      obtain ⟨name, old⟩ := entry
      by_cases same : name = key
      · simp [put, same, lookup?_cons]
      · simp [put, same, lookup?_cons, induction]

theorem lookup?_put_other (entries : Entries α) {key other : String}
    (value : α) (different : key ≠ other) :
    lookup? (put entries key value) other = lookup? entries other := by
  induction entries with
  | nil => simp [put, lookup?_cons, different]
  | cons entry entries induction =>
      obtain ⟨name, old⟩ := entry
      by_cases same : name = key
      · subst name
        simp [put, lookup?_cons, different]
      · simp [put, same, lookup?_cons, induction]

theorem mem_keys_of_lookup? {entries : Entries α} {key : String} {value : α}
    (found : lookup? entries key = some value) : key ∈ keys entries := by
  induction entries with
  | nil => simp at found
  | cons entry entries induction =>
      obtain ⟨name, old⟩ := entry
      rw [lookup?_cons] at found
      by_cases same : name = key
      · simp [keys, same]
      · rw [if_neg same] at found
        have later := induction found
        simp only [keys] at later
        simp [keys, later]

theorem lookup?_eq_none_iff {entries : Entries α} {key : String} :
    lookup? entries key = none ↔ key ∉ keys entries := by
  induction entries with
  | nil => simp [keys]
  | cons entry entries induction =>
      obtain ⟨name, old⟩ := entry
      rw [lookup?_cons]
      by_cases same : name = key
      · simp [keys, same]
      · rw [if_neg same, induction]
        simp [keys, Ne.symm same]

/-- A new name does not disturb what is found under the names already there. -/
theorem lookup?_put_fresh {entries : Entries α} {key other : String}
    {value found : α}
    (fresh : key ∉ keys entries) (before : lookup? entries other = some found) :
    lookup? (put entries key value) other = some found := by
  have different : key ≠ other := by
    intro equality
    subst other
    exact fresh (mem_keys_of_lookup? before)
  rw [lookup?_put_other entries value different, before]

theorem mem_of_lookup? {entries : Entries α} {key : String} {value : α}
    (found : lookup? entries key = some value) : (key, value) ∈ entries := by
  induction entries with
  | nil => simp at found
  | cons entry entries induction =>
      obtain ⟨name, old⟩ := entry
      rw [lookup?_cons] at found
      by_cases same : name = key
      · rw [if_pos same] at found
        simp [same, Option.some.inj found]
      · rw [if_neg same] at found
        exact List.mem_cons_of_mem _ (induction found)

/-- What is found under a name is found when entries are added at the end. -/
theorem lookup?_of_prefix {first second : Entries α} (longer : first <+: second)
    {key : String} {value : α} (found : lookup? first key = some value) :
    lookup? second key = some value := by
  obtain ⟨added, rfl⟩ := longer
  obtain ⟨entry, first, rfl⟩ := Option.map_eq_some_iff.mp found
  rw [lookup?, List.find?_append, first]
  rfl

theorem contains_eq_isSome (entries : Entries α) (key : String) :
    contains entries key = (lookup? entries key).isSome := by
  induction entries with
  | nil => rfl
  | cons entry entries induction =>
      obtain ⟨name, old⟩ := entry
      simp only [contains] at induction
      by_cases same : name = key
      · simp [contains, lookup?_cons, same]
      · simp [contains, lookup?_cons, same, induction]

theorem put_fresh {entries : Entries α} {key : String} {value : α}
    (fresh : key ∉ keys entries) :
    put entries key value = entries ++ [(key, value)] := by
  induction entries with
  | nil => rfl
  | cons entry entries induction =>
      obtain ⟨name, old⟩ := entry
      simp only [keys, List.map_cons, List.mem_cons, not_or] at fresh
      have rest := induction fresh.2
      simp [put, Ne.symm fresh.1, rest]

theorem lookup?_of_mem {entries : Entries α} {key : String} {value : α}
    (distinct : (keys entries).Nodup) (member : (key, value) ∈ entries) :
    lookup? entries key = some value := by
  induction entries with
  | nil => simp at member
  | cons entry entries induction =>
      obtain ⟨name, old⟩ := entry
      simp only [keys, List.map_cons, List.nodup_cons] at distinct
      rw [lookup?_cons]
      rcases List.mem_cons.mp member with first | later
      · cases first
        simp
      · have different : name ≠ key := by
          intro equality
          subst name
          exact distinct.1 (List.mem_map.mpr ⟨(key, value), later, rfl⟩)
        rw [if_neg different]
        exact induction distinct.2 later

theorem keys_put_fresh {entries : Entries α} {key : String} {value : α}
    (fresh : key ∉ keys entries) :
    keys (put entries key value) = keys entries ++ [key] := by
  rw [put_fresh fresh]
  simp [keys]

theorem mem_put {entries : Entries α} {key : String} {value : α}
    {entry : String × α} (member : entry ∈ put entries key value) :
    entry = (key, value) ∨ entry ∈ entries := by
  induction entries with
  | nil => exact Or.inl (by simpa [put] using member)
  | cons head entries induction =>
      obtain ⟨name, old⟩ := head
      by_cases same : name = key
      · simp only [put, same, if_true, List.mem_cons] at member
        rcases member with first | later
        · exact Or.inl first
        · exact Or.inr (List.mem_cons_of_mem _ later)
      · simp only [put, same, if_false, List.mem_cons] at member
        rcases member with first | later
        · exact Or.inr (by simp [first])
        · rcases induction later with new | old
          · exact Or.inl new
          · exact Or.inr (List.mem_cons_of_mem _ old)

/-- Assignments to distinct names are carried out as they stand. -/
theorem ofAssignments_eq {assignments : List (String × α)}
    (distinct : (keys assignments).Nodup) :
    ofAssignments assignments = assignments := by
  have filled : ∀ before : Entries α, (keys (before ++ assignments)).Nodup →
      assignments.foldl (fun entries entry => put entries entry.1 entry.2)
        before =
        before ++ assignments := by
    clear distinct
    induction assignments with
    | nil =>
        intro before _
        simp
    | cons entry assignments induction =>
        intro before distinct
        have fresh : entry.1 ∉ keys before := by
          intro member
          simp only [keys, List.map_append, List.map_cons] at distinct member
          exact (List.disjoint_of_nodup_append distinct) member
            List.mem_cons_self
        rw [List.foldl_cons, put_fresh fresh, induction]
        · simp
        · simpa using distinct
  exact filled [] distinct

theorem keys_eq_of_forall₂ {β : Type} {first : Entries α} {second : Entries β}
    (same : List.Forall₂ (fun left right => right.1 = left.1) first second) :
    keys second = keys first := by
  induction same with
  | nil => rfl
  | cons head _ induction => exact congrArg₂ List.cons head induction

theorem ofAssignments_concat (assignments : List (String × α)) (key : String)
    (value : α) :
    ofAssignments (assignments ++ [(key, value)]) =
      put (ofAssignments assignments) key value := by
  rw [ofAssignments, List.foldl_append]
  rfl

theorem keys_put (entries : Entries α) (key : String) (value : α) :
    keys (put entries key value) =
      if key ∈ keys entries then keys entries else keys entries ++ [key] := by
  induction entries with
  | nil => rfl
  | cons entry entries induction =>
      obtain ⟨name, old⟩ := entry
      by_cases same : name = key
      · simp [put, keys, same]
      · simp only [keys] at induction
        by_cases member : key ∈ entries.map Prod.fst
        · simp [put, keys, same, Ne.symm same, induction, member]
        · simp [put, keys, same, Ne.symm same, induction, member]

/-- The names are those that are assigned, each where it first comes up. -/
theorem keys_ofAssignments (assignments : List (String × α)) :
    keys (ofAssignments assignments) =
      (keys assignments).reverse.dedup.reverse := by
  induction assignments using List.reverseRecOn with
  | nil => rfl
  | append_singleton assignments assignment induction =>
      obtain ⟨key, value⟩ := assignment
      have added :
          keys (assignments ++ [(key, value)]) = keys assignments ++ [key] := by
        simp [keys]
      rw [ofAssignments_concat, keys_put, induction, added, List.reverse_append,
        List.reverse_singleton, List.singleton_append]
      by_cases member : key ∈ keys assignments
      · rw [List.dedup_cons_of_mem (List.mem_reverse.mpr member),
          if_pos (by simpa using member)]
      · rw [List.dedup_cons_of_notMem (by simpa using member),
          if_neg (by simpa using member), List.reverse_cons]

/-- The last assignment to a name is in force. -/
theorem lookup?_ofAssignments (assignments : List (String × α)) (key : String) :
    lookup? (ofAssignments assignments) key =
      lookup? assignments.reverse key := by
  induction assignments using List.reverseRecOn with
  | nil => rfl
  | append_singleton assignments assignment induction =>
      obtain ⟨name, value⟩ := assignment
      rw [ofAssignments_concat, List.reverse_append, List.reverse_singleton,
        List.singleton_append, lookup?_cons]
      by_cases same : name = key
      · rw [if_pos same, ← same, lookup?_put_same]
      · rw [if_neg same, lookup?_put_other _ _ same, induction]

/-- Assignments are carried out as they stand exactly if their names are
distinct. -/
theorem ofAssignments_eq_iff {assignments : List (String × α)} :
    ofAssignments assignments = assignments ↔ (keys assignments).Nodup := by
  constructor
  · intro same
    rw [← same, keys_ofAssignments, List.nodup_reverse]
    exact List.nodup_dedup _
  · exact ofAssignments_eq

end GraphPipeline.Entries
