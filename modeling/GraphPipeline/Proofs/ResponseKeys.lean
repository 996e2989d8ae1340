import GraphPipeline.Proofs.Entries
import GraphPipeline.Selections

/-!
# Response keys and signatures

A free key is never one of the taken keys, because one more candidate is tried
than there are taken keys and all candidates differ.  A signature determines the
name of its field and the text of its arguments, as long as the name is a name
of the query language: no such name holds the parenthesis that opens arguments.
-/

namespace GraphPipeline

/-- Whether a character may start a name of the query language. -/
def isNameStart (character : Char) : Bool :=
  character.isAlpha || character == '_'

/-- Whether a character may stand inside a name of the query language. -/
def isNameCharacter (character : Char) : Bool :=
  character.isAlphanum || character == '_'

/-- Names of fields, types, arguments and variables. -/
def isGraphqlName (name : String) : Bool :=
  match name.toList with
  | [] => false
  | first :: rest => isNameStart first && rest.all isNameCharacter

theorem isNameCharacter_of_isNameStart {character : Char}
    (start : isNameStart character = true) :
    isNameCharacter character = true := by
  simp only [isNameStart, Bool.or_eq_true] at start
  simp only [isNameCharacter, Char.isAlphanum, Bool.or_eq_true]
  rcases start with letter | underscore
  · exact Or.inl (Or.inl letter)
  · exact Or.inr underscore

theorem isNameCharacter_of_mem {name : String}
    (named : isGraphqlName name = true)
    {character : Char} (member : character ∈ name.toList) :
    isNameCharacter character = true := by
  unfold isGraphqlName at named
  cases letters : name.toList with
  | nil => simp [letters] at named
  | cons first rest =>
      rw [letters] at named member
      simp only [Bool.and_eq_true, List.all_eq_true] at named
      rcases List.mem_cons.mp member with equality | later
      · rw [equality]
        exact isNameCharacter_of_isNameStart named.1
      · exact named.2 character later

theorem isGraphqlName_ne_empty {name : String}
    (named : isGraphqlName name = true) :
    name.toList ≠ [] := by
  intro empty
  simp [isGraphqlName, empty] at named

/-- A name with a number after it is a name. -/
theorem isGraphqlName_numbered {name : String}
    (named : isGraphqlName name = true) (number : Nat) :
    isGraphqlName (name ++ toString number) = true := by
  have digits :
      ∀ digit ∈ (toString number).toList, isNameCharacter digit = true := by
    intro digit member
    rw [Nat.toString_eq_repr, Nat.toList_repr] at member
    have isDigit := Nat.isDigit_of_mem_toDigits (by decide) (by decide) member
    simp [isNameCharacter, Char.isAlphanum, isDigit]
  cases letters : name.toList with
  | nil => exact absurd letters (isGraphqlName_ne_empty named)
  | cons first rest =>
      rw [isGraphqlName, letters] at named
      rw [isGraphqlName, String.toList_append, letters]
      simp only [List.cons_append, List.all_append, Bool.and_eq_true] at named ⊢
      exact ⟨named.1, named.2, List.all_eq_true.mpr digits⟩

private theorem open_notMem {name : String}
    (named : isGraphqlName name = true) :
    '(' ∉ name.toList := by
  intro member
  have impossible := isNameCharacter_of_mem named member
  revert impossible
  decide

theorem renderAll_nil : Argument.renderAll [] = "" := rfl

theorem renderAll_cons (argument : Argument) (arguments : List Argument) :
    Argument.renderAll (argument :: arguments) =
      "(" ++ joined ", " ((argument :: arguments).map Argument.render) ++ ")" :=
  rfl

/-- Written arguments are empty or start with the parenthesis that opens
them. -/
theorem renderAll_toList (arguments : List Argument) :
    (Argument.renderAll arguments).toList = [] ∨
      ∃ rest, (Argument.renderAll arguments).toList = '(' :: rest := by
  cases arguments with
  | nil => exact Or.inl rfl
  | cons argument arguments =>
      refine Or.inr ⟨(joined ", "
          ((argument :: arguments).map Argument.render)).toList ++
        [')'], ?_⟩
      simp [renderAll_cons]

private theorem split_at_open {left right : List Char}
    {lefts rights : List Char}
    (leftFree : '(' ∉ left) (rightFree : '(' ∉ right)
    (leftStart : lefts = [] ∨ ∃ rest, lefts = '(' :: rest)
    (rightStart : rights = [] ∨ ∃ rest, rights = '(' :: rest)
    (equality : left ++ lefts = right ++ rights) :
    left = right ∧ lefts = rights := by
  induction left generalizing right with
  | nil =>
      cases right with
      | nil => exact ⟨rfl, by simpa using equality⟩
      | cons next right =>
          rcases leftStart with empty | ⟨rest, opened⟩
          · simp [empty] at equality
          · simp only [opened, List.nil_append, List.cons_append,
              List.cons.injEq] at equality
            simp [← equality.1] at rightFree
  | cons next left induction =>
      cases right with
      | nil =>
          rcases rightStart with empty | ⟨rest, opened⟩
          · simp [empty] at equality
          · simp only [opened, List.nil_append, List.cons_append,
              List.cons.injEq] at equality
            simp [equality.1] at leftFree
      | cons other right =>
          simp only [List.cons_append, List.cons.injEq] at equality
          simp only [List.mem_cons, not_or] at leftFree rightFree
          have tails := induction leftFree.2 rightFree.2 equality.2
          exact ⟨by rw [equality.1, tails.1], tails.2⟩

theorem signature_injective {name other : String}
    {arguments others : List Argument}
    (named : isGraphqlName name = true)
    (otherNamed : isGraphqlName other = true)
    (equality : signature name arguments = signature other others) :
    name = other ∧
      Argument.renderAll arguments = Argument.renderAll others := by
  have letters := congrArg String.toList equality
  simp only [signature, String.toList_append] at letters
  have parts := split_at_open (open_notMem named) (open_notMem otherNamed)
    (renderAll_toList arguments) (renderAll_toList others) letters
  exact ⟨String.ext parts.1, String.ext parts.2⟩

theorem keyCandidates_length (name : String) (count : Nat) :
    (keyCandidates name count).length = count + 1 := by
  simp [keyCandidates]

/-- The response keys of a field with a name are names. -/
theorem isGraphqlName_of_mem_keyCandidates {name key : String} {count : Nat}
    (named : isGraphqlName name = true)
    (candidate : key ∈ keyCandidates name count) :
    isGraphqlName key = true := by
  rcases List.mem_cons.mp candidate with rfl | numbered
  · exact named
  · obtain ⟨index, _, rfl⟩ := List.mem_map.mp numbered
    exact isGraphqlName_numbered named (index + 1)

private theorem numbered_ne_self (name : String) (index : Nat) :
    name ≠ name ++ toString (index + 1) := by
  intro equality
  have lengths := congrArg String.length equality
  have positive : (toString (index + 1)).length ≠ 0 := by simp
  simp only [String.length_append] at lengths
  omega

/-- No candidate for a name comes up twice. -/
theorem keyCandidates_nodup (name : String) (count : Nat) :
    (keyCandidates name count).Nodup := by
  unfold keyCandidates
  apply List.nodup_cons.mpr
  constructor
  · intro member
    obtain ⟨index, _, equality⟩ := List.mem_map.mp member
    exact numbered_ne_self name index equality.symm
  · apply List.Nodup.map _ List.nodup_range
    intro left right equality
    have digits : (left + 1).repr = (right + 1).repr :=
      (String.append_right_inj name).mp equality
    have numbers := Nat.repr_injective digits
    omega

/-- As all candidates differ, there are more taken keys than numbers of taken
candidates. -/
theorem lt_length_of_keyCandidates_subset {taken : List String} {name : String}
    {count : Nat}
    (allTaken : keyCandidates name count ⊆ taken) : count < taken.length := by
  have bound : (keyCandidates name count).length ≤ taken.length :=
    (List.subperm_of_subset (keyCandidates_nodup name count) allTaken).length_le
  rwa [keyCandidates_length] at bound

/-- One candidate more than there are taken keys is enough for a free one. -/
theorem find?_keyCandidates (taken : List String) (name : String) :
    (keyCandidates name taken.length).find? (· ∉ taken) =
      some (freeKey taken name) := by
  rw [freeKey]
  cases result : (keyCandidates name taken.length).find? (· ∉ taken) with
  | some key => rfl
  | none =>
      have allTaken : keyCandidates name taken.length ⊆ taken := by
        intro candidate member
        simpa using List.find?_eq_none.mp result candidate member
      exact absurd (lt_length_of_keyCandidates_subset allTaken)
        (Nat.lt_irrefl _)

theorem freeKey_notMem (taken : List String) (name : String) :
    freeKey taken name ∉ taken := by
  simpa using List.find?_some (find?_keyCandidates taken name)

end GraphPipeline
