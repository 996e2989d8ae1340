import GraphPipeline.Document
import GraphPipeline.Proofs.ValueTexts

/-!
# Reading documents back

The text of a document can be read in one way.  Every part of it ends where the
next part starts with a character that cannot belong to it: names are followed
by marks, values by commas and parentheses, and the lines of a set by a line
that is indented less.  Only the values of arguments are not read back, but
their texts are.
-/

namespace GraphPipeline

/-! ### Cutting texts -/

/-- Letters of one kind that are followed by another letter can be cut off in
one way. -/
theorem cut_after {kind : Char → Bool} {word other rest others : List Char}
    (inside : ∀ letter ∈ word, kind letter = true)
    (otherInside : ∀ letter ∈ other, kind letter = true)
    (stops : ∀ letter ∈ rest.head?, kind letter = false)
    (otherStops : ∀ letter ∈ others.head?, kind letter = false)
    (same : word ++ rest = other ++ others) : word = other ∧ rest = others := by
  have whole :
      ∀ {word rest : List Char}, (∀ letter ∈ word, kind letter = true) →
        (∀ letter ∈ rest.head?, kind letter = false) →
          (word ++ rest).takeWhile kind = word := by
    intro word rest inside stops
    rw [List.takeWhile_append_of_pos inside]
    cases rest with
    | nil => simp
    | cons letter rest => simp [stops letter rfl]
  have sameWord : word = other := by
    rw [← whole inside stops, same, whole otherInside otherStops]
  subst other
  exact ⟨rfl, List.append_cancel_left same⟩

theorem name_cut {name other : String} {rest others : List Char}
    (named : isGraphqlName name = true)
    (otherNamed : isGraphqlName other = true) (delimited : Delimited rest)
    (otherDelimited : Delimited others)
    (same : name.toList ++ rest = other.toList ++ others) :
    name = other ∧ rest = others := by
  obtain ⟨sameName, sameRest⟩ :=
    cut_after (fun _ => isNameCharacter_of_mem named)
      (fun _ => isNameCharacter_of_mem otherNamed) delimited otherDelimited same
  exact ⟨String.ext sameName, sameRest⟩

/-- The indentation of a line can be told from the line. -/
theorem indentation_cut {depth other : Nat} {left right : Char}
    {rest others : List Char}
    (bare : left ≠ ' ') (otherBare : right ≠ ' ')
    (same : (indentation depth).toList ++ left :: rest =
      (indentation other).toList ++ right :: others) :
    depth = other ∧ left = right ∧ rest = others := by
  have blanks :
      ∀ {depth}, ∀ letter ∈ (indentation depth).toList,
        (letter == ' ') = true := by
    intro depth letter member
    rw [indentation, String.toList_ofList] at member
    exact beq_iff_eq.mpr (List.eq_of_mem_replicate member)
  obtain ⟨sameBlanks, sameLine⟩ := cut_after blanks blanks
    (by rintro letter ⟨⟩; exact beq_false_of_ne bare)
    (by rintro letter ⟨⟩; exact beq_false_of_ne otherBare) same
  obtain ⟨sameMark, sameRest⟩ := List.cons.inj sameLine
  have sameLength := congrArg List.length sameBlanks
  simp only [indentation, String.toList_ofList,
    List.length_replicate] at sameLength
  exact ⟨by omega, sameMark, sameRest⟩

theorem EndsValue.comma (rest : List Char) : EndsValue (',' :: rest) :=
  ⟨_, _, rfl, .inl rfl⟩

theorem EndsValue.closing (rest : List Char) : EndsValue (')' :: rest) :=
  ⟨_, _, rfl, .inr rfl⟩

/-- Items between commas are cut apart if each can be cut from what follows
it. -/
theorem joined_cut {α β : Type} {render : α → String} {read : α → β}
    {ends : List Char → Prop} {mark : Char}
    (goesOn : ∀ rest, ends (',' :: rest)) (closes : ∀ rest, ends (mark :: rest))
    (noComma : mark ≠ ',') {items others : List α}
    (cut :
      ∀ item ∈ items, ∀ other ∈ others, ∀ {rest rests : List Char}, ends rest →
        ends rests →
          (render item).toList ++ rest = (render other).toList ++ rests →
          read item = read other ∧ rest = rests)
    (nonempty : items ≠ []) (otherNonempty : others ≠ [])
    {rest rests : List Char}
    (same : (joined ", " (items.map render)).toList ++ mark :: rest =
      (joined ", " (others.map render)).toList ++ mark :: rests) :
    items.map read = others.map read ∧ rest = rests := by
  induction items generalizing others with
  | nil => exact absurd rfl nonempty
  | cons item items induction =>
      cases others with
      | nil => exact absurd rfl otherNonempty
      | cons other others =>
          have first := @cut item List.mem_cons_self other List.mem_cons_self
          cases items with
          | nil =>
              cases others with
              | nil =>
                  obtain ⟨sameItem, sameRest⟩ :=
                    first (closes _) (closes _) same
                  exact ⟨congrArg ([·]) sameItem, (List.cons.inj sameRest).2⟩
              | cons next others =>
                  simp only [List.map_cons, joined, String.toList_append,
                    String.reduceToList, List.append_assoc, List.cons_append,
                    List.nil_append] at same
                  exact absurd (first (closes _) (goesOn _) same).2
                    (by simp [noComma])
          | cons next items =>
              cases others with
              | nil =>
                  simp only [List.map_cons, joined, String.toList_append,
                    String.reduceToList, List.append_assoc, List.cons_append,
                    List.nil_append] at same
                  exact absurd (first (goesOn _) (closes _) same).2
                    (by simp [Ne.symm noComma])
              | cons otherNext others =>
                  simp only [List.map_cons, joined, String.toList_append,
                    String.reduceToList, List.append_assoc, List.cons_append,
                    List.nil_append] at same
                  obtain ⟨sameItem, sameOthers⟩ :=
                    first (goesOn _) (goesOn _) same
                  obtain ⟨sameItems, sameRest⟩ := induction
                    (fun item member other otherMember => cut item
                      (List.mem_cons_of_mem _ member) other
                      (List.mem_cons_of_mem _ otherMember))
                    (List.cons_ne_nil _ _) (List.cons_ne_nil _ _)
                    (List.cons.inj (List.cons.inj sameOthers).2).2
                  exact ⟨congrArg₂ List.cons sameItem sameItems, sameRest⟩

/-! ### Arguments -/

/-- The argument with the text of its value in place of the value. -/
def Argument.asWritten (argument : Argument) : Argument :=
  { argument with value := .enumeration argument.value.render }

theorem Argument.render_cut {argument other : Argument}
    {rest others : List Char}
    (named : argument.isNamed = true) (otherNamed : other.isNamed = true)
    (ends : EndsValue rest) (otherEnds : EndsValue others)
    (same : argument.render.toList ++ rest = other.render.toList ++ others) :
    argument.asWritten = other.asWritten ∧ rest = others := by
  rw [Argument.isNamed, Bool.and_eq_true] at named otherNamed
  simp only [Argument.render, String.toList_append, String.reduceToList,
    List.append_assoc, List.cons_append, List.nil_append] at same
  obtain ⟨sameName, sameValue⟩ :=
    name_cut named.1 otherNamed.1 (.cons (by decide) _) (.cons (by decide) _)
      same
  obtain ⟨sameText, sameRest⟩ :=
    ArgumentValue.render_cut named.2 otherNamed.2 ends otherEnds
      (List.cons.inj (List.cons.inj sameValue).2).2
  exact ⟨by rw [Argument.asWritten, Argument.asWritten, sameName, sameText],
    sameRest⟩

/-- Arguments are cut off where no parenthesis follows them. -/
theorem Argument.renderAll_cut {arguments others : List Argument}
    {rest rests : List Char}
    (named : ∀ argument ∈ arguments, argument.isNamed = true)
    (otherNamed : ∀ argument ∈ others, argument.isNamed = true)
    (bare : ∀ letter ∈ rest.head?, letter ≠ '(')
    (otherBare : ∀ letter ∈ rests.head?, letter ≠ '(')
    (same : (Argument.renderAll arguments).toList ++ rest =
      (Argument.renderAll others).toList ++ rests) :
    arguments.map Argument.asWritten = others.map Argument.asWritten ∧
      rest = rests := by
  have opens :
      ∀ (argument : Argument) (arguments : List Argument) (rest : List Char),
        (Argument.renderAll (argument :: arguments)).toList ++ rest =
        '(' ::
          ((joined ", " ((argument :: arguments).map Argument.render)).toList ++
          ')' :: rest) := by
    intro argument arguments rest
    rw [renderAll_cons, String.toList_append, String.toList_append,
      List.append_assoc, List.append_assoc]
    rfl
  cases arguments with
  | nil =>
      cases others with
      | nil => exact ⟨rfl, same⟩
      | cons other others =>
          have starts : rest = '(' :: _ := same.trans (opens other others rests)
          exact absurd rfl (bare '(' (by rw [starts]; rfl))
  | cons argument arguments =>
      cases others with
      | nil =>
          have starts : rests = '(' :: _ :=
            same.symm.trans (opens argument arguments rest)
          exact absurd rfl (otherBare '(' (by rw [starts]; rfl))
      | cons other others =>
          rw [opens, opens] at same
          exact joined_cut EndsValue.comma EndsValue.closing (by decide)
            (fun argument member other otherMember =>
              Argument.render_cut (named argument member)
                (otherNamed other otherMember))
            (List.cons_ne_nil _ _) (List.cons_ne_nil _ _) (List.cons.inj same).2

/-! ### Selections -/

namespace SelectionSet

mutual

/-- The set with the texts of the values of its arguments in place of the
values. -/
def asWritten : SelectionSet → SelectionSet
  | .mk requiresTypename fields fragments =>
      .mk requiresTypename (asWrittenFields fields)
        (asWrittenFragments fragments)

def asWrittenFields : List FieldSelection → List FieldSelection
  | [] => []
  | field :: fields => asWrittenField field :: asWrittenFields fields

def asWrittenField : FieldSelection → FieldSelection
  | .mk name responseAlias arguments none =>
      .mk name responseAlias (arguments.map Argument.asWritten) none
  | .mk name responseAlias arguments (some selections) =>
      .mk name responseAlias (arguments.map Argument.asWritten)
        (some selections.asWritten)

def asWrittenFragments :
    List (String × SelectionSet) → List (String × SelectionSet)
  | [] => []
  | (typeName, selections) :: fragments =>
      (typeName, selections.asWritten) :: asWrittenFragments fragments

end

section

variable (holds : SelectionSet → Prop)

mutual

/-- Something holds of a set and of every set inside of it. -/
def Each : SelectionSet → Prop
  | .mk requiresTypename fields fragments =>
      holds (.mk requiresTypename fields fragments) ∧ EachOfFields fields ∧
        EachOfFragments fragments

def EachOfFields : List FieldSelection → Prop
  | [] => True
  | field :: fields => EachOfField field ∧ EachOfFields fields

def EachOfField : FieldSelection → Prop
  | .mk _ _ _ none => True
  | .mk _ _ _ (some selections) => selections.Each

def EachOfFragments : List (String × SelectionSet) → Prop
  | [] => True
  | (_, selections) :: fragments => selections.Each ∧ EachOfFragments fragments

end

end

end SelectionSet

/-- A field has a name of the query language, which is not the one under which
the type is asked for, and so have its arguments and what is written without
quotes in them: variables, enumeration values and the fields of input objects,
be they literals or not. -/
structure FieldSelection.IsNamed (field : FieldSelection) : Prop where
  name : isGraphqlName field.name = true
  noTypename : field.name ≠ typenameKey
  arguments : ∀ argument ∈ field.arguments, argument.isNamed = true

/-- The fields of a set and the types of its fragments have names of the query
language. -/
structure SelectionSet.IsNamed (set : SelectionSet) : Prop where
  fields : ∀ field ∈ set.fields, field.IsNamed
  fragments : ∀ fragment ∈ set.fragments, isGraphqlName fragment.1 = true

/-- A field whose heading can be read back. -/
structure FieldSelection.Readable (field : FieldSelection) :
    Prop extends field.IsNamed where
  responseAlias : ∀ key ∈ field.responseAlias, isGraphqlName key = true

/-- A set whose own lines can be read back.  It asks for the name of the type if
it has fragments, which need it, and otherwise only if it would be empty. -/
structure SelectionSet.Readable (set : SelectionSet) : Prop where
  requiresTypename : set.requiresTypename = !set.fragments.isEmpty
  fields : ∀ field ∈ set.fields, field.Readable
  fragments : ∀ fragment ∈ set.fragments, isGraphqlName fragment.1 = true

/-- What follows the heading of a field. -/
def EndsHeading (rest : List Char) : Prop :=
  ∃ mark letters, rest = mark :: letters ∧ (mark = '\n' ∨ mark = ' ')

theorem EndsHeading.head {rest : List Char} (ends : EndsHeading rest) :
    ∀ letter ∈ rest.head?, letter = '\n' ∨ letter = ' ' := by
  obtain ⟨mark, letters, rfl, kind⟩ := ends
  rintro letter ⟨⟩
  exact kind

theorem EndsHeading.notOpen {rest : List Char} (ends : EndsHeading rest) :
    ∀ letter ∈ rest.head?, letter ≠ '(' := by
  intro letter member
  rcases ends.head letter member with rfl | rfl <;> decide

/-- The arguments of a field, and what follows them, start with no letter of a
name and with no colon. -/
theorem EndsHeading.call {rest : List Char} (ends : EndsHeading rest)
    (arguments : List Argument) :
    ∀ letter ∈ ((Argument.renderAll arguments).toList ++ rest).head?,
      isNameCharacter letter = false ∧ letter ≠ ':' := by
  rcases renderAll_toList arguments with none | ⟨others, opens⟩
  · rw [none, List.nil_append]
    intro letter member
    rcases ends.head letter member with rfl | rfl <;> decide
  · rw [opens, List.cons_append]
    rintro letter ⟨⟩
    decide

namespace FieldSelection

/-- The name of a field, with its arguments, is cut off where its heading
ends. -/
theorem call_cut {field other : FieldSelection} {rest others : List Char}
    (readable : field.Readable) (otherReadable : other.Readable)
    (ends : EndsHeading rest) (otherEnds : EndsHeading others)
    (same :
      field.name.toList ++
        ((Argument.renderAll field.arguments).toList ++ rest) =
        other.name.toList ++
          ((Argument.renderAll other.arguments).toList ++ others)) :
    field.name = other.name ∧
      field.arguments.map Argument.asWritten =
        other.arguments.map Argument.asWritten ∧
        rest = others := by
  obtain ⟨sameName, sameCall⟩ := name_cut readable.name otherReadable.name
    (fun letter member => (ends.call field.arguments letter member).1)
    (fun letter member => (otherEnds.call other.arguments letter member).1) same
  obtain ⟨sameArguments, sameRest⟩ := Argument.renderAll_cut readable.arguments
    otherReadable.arguments ends.notOpen otherEnds.notOpen sameCall
  exact ⟨sameName, sameArguments, sameRest⟩

theorem heading_toList (field : FieldSelection) (rest : List Char) :
    field.heading.toList ++ rest =
      (field.responseAlias.elim [] fun key => key.toList ++ [':', ' ']) ++
        (field.name.toList ++
          ((Argument.renderAll field.arguments).toList ++ rest)) := by
  cases field with
  | mk name responseAlias arguments selections =>
      cases responseAlias with
      | none =>
        simp [heading, FieldSelection.responseAlias, FieldSelection.name,
          FieldSelection.arguments]
      | some key =>
        simp [heading, FieldSelection.responseAlias, FieldSelection.name,
          FieldSelection.arguments]

/-- A name that is followed by a colon is an alias. -/
theorem alias_ne_call {field : FieldSelection} {key : String}
    {rest others : List Char}
    (readable : field.Readable) (named : isGraphqlName key = true)
    (ends : EndsHeading rest) :
    key.toList ++ ':' :: others ≠
      field.name.toList ++
        ((Argument.renderAll field.arguments).toList ++ rest) := by
  intro same
  obtain ⟨_, sameRest⟩ := name_cut named readable.name (.cons (by decide) _)
    (fun letter member => (ends.call field.arguments letter member).1) same
  exact (ends.call field.arguments ':' (by rw [← sameRest]; rfl)).2 rfl

/-- The heading of a field is cut off where it ends. -/
theorem heading_cut {field other : FieldSelection} {rest others : List Char}
    (readable : field.Readable) (otherReadable : other.Readable)
    (ends : EndsHeading rest) (otherEnds : EndsHeading others)
    (same : field.heading.toList ++ rest = other.heading.toList ++ others) :
    field.responseAlias = other.responseAlias ∧ field.name = other.name ∧
      field.arguments.map Argument.asWritten =
        other.arguments.map Argument.asWritten ∧
        rest = others := by
  rw [heading_toList, heading_toList] at same
  cases key : field.responseAlias with
  | none =>
      cases otherKey : other.responseAlias with
      | none =>
          rw [key, otherKey] at same
          exact ⟨rfl, call_cut readable otherReadable ends otherEnds same⟩
      | some name =>
          rw [key, otherKey] at same
          simp only [Option.elim_none, Option.elim_some, List.nil_append,
            List.append_assoc, List.cons_append] at same
          exact absurd same.symm
            (alias_ne_call readable (otherReadable.responseAlias name otherKey)
              ends)
  | some name =>
      have named := readable.responseAlias name key
      cases otherKey : other.responseAlias with
      | none =>
          rw [key, otherKey] at same
          simp only [Option.elim_none, Option.elim_some, List.nil_append,
            List.append_assoc, List.cons_append] at same
          exact absurd same (alias_ne_call otherReadable named otherEnds)
      | some otherName =>
          rw [key, otherKey] at same
          simp only [Option.elim_some, List.append_assoc, List.cons_append,
            List.nil_append] at same
          obtain ⟨sameKey, sameCall⟩ := name_cut named
            (otherReadable.responseAlias otherName otherKey)
              (.cons (by decide) _)
            (.cons (by decide) _) same
          exact ⟨congrArg some sameKey,
            call_cut readable otherReadable ends otherEnds
              (List.cons.inj (List.cons.inj sameCall).2).2⟩

/-- No field is written like the one that asks for the name of the type. -/
theorem heading_ne_typename {field : FieldSelection} {rest others : List Char}
    (readable : field.Readable) (ends : EndsHeading rest) :
    typenameKey.toList ++ '\n' :: others ≠ field.heading.toList ++ rest := by
  intro same
  have named : isGraphqlName typenameKey = true := by decide
  rw [heading_toList] at same
  cases key : field.responseAlias with
  | none =>
      rw [key] at same
      obtain ⟨sameName, _⟩ := name_cut named readable.name (.cons (by decide) _)
        (fun letter member => (ends.call field.arguments letter member).1) same
      exact readable.noTypename sameName.symm
  | some name =>
      rw [key] at same
      simp only [Option.elim_some, List.append_assoc, List.cons_append,
        List.nil_append] at same
      obtain ⟨_, sameRest⟩ := name_cut named (readable.responseAlias name key)
        (.cons (by decide) _) (.cons (by decide) _) same
      simp at sameRest

end FieldSelection

/-- A line that is neither a field nor indented further. -/
def StartsBare (rest : List Char) : Prop :=
  ∃ depth mark letters, rest = (indentation depth).toList ++ mark :: letters ∧
    mark ≠ ' ' ∧ isNameCharacter mark = false

namespace SelectionSet

theorem render_toList (depth : Nat) (requiresTypename : Bool)
    (fields : List FieldSelection) (fragments : List (String × SelectionSet))
    (rest : List Char) :
    (render depth (.mk requiresTypename fields fragments)).toList ++ rest =
      ' ' :: '\x7b' :: '\n' ::
        ((if requiresTypename || (fields.isEmpty && fragments.isEmpty) then
            (indentation (depth + 1)).toList ++
              (typenameKey.toList ++ ['\n']) else []) ++
          ((renderFields (depth + 1) fields).toList ++
            ((renderFragments (depth + 1) fragments).toList ++
              ((indentation depth).toList ++ '\x7d' :: '\n' :: rest)))) := by
  rw [render]
  split <;> simp [indentedLine]

theorem renderField_toList (depth : Nat) (field : FieldSelection)
    (rest : List Char) :
    (renderField depth field).toList ++ rest =
      (indentation depth).toList ++ (field.heading.toList ++
        ((field.selections.elim "\n" (render depth)).toList ++ rest)) := by
  cases field with
  | mk name responseAlias arguments selections =>
      cases selections with
      | none => simp [renderField, indentedLine, FieldSelection.selections]
      | some selections =>
          simp [renderField, FieldSelection.selections, FieldSelection.heading,
            FieldSelection.responseAlias, FieldSelection.name,
            FieldSelection.arguments]

theorem renderFragments_toList (depth : Nat) (typeName : String)
    (set : SelectionSet) (fragments : List (String × SelectionSet))
    (rest : List Char) :
    (renderFragments depth ((typeName, set) :: fragments)).toList ++ rest =
      (indentation depth).toList ++ '.' :: '.' :: '.' :: ' ' :: 'o' :: 'n' ::
        ' ' ::
        (typeName.toList ++ ((set.render depth).toList ++
          ((renderFragments depth fragments).toList ++ rest))) := by
  simp [renderFragments]

/-- A set starts with a blank. -/
theorem exists_render_toList (depth : Nat) (set : SelectionSet)
    (rest : List Char) :
    ∃ letters, (set.render depth).toList ++ rest = ' ' :: letters := by
  cases set with
  | mk requiresTypename fields fragments =>
    exact ⟨_, render_toList depth _ _ _ rest⟩

theorem endsHeading_selections (depth : Nat) (selections : Option SelectionSet)
    (rest : List Char) :
    EndsHeading ((selections.elim "\n" (render depth)).toList ++ rest) := by
  cases selections with
  | none => exact ⟨'\n', rest, by simp, .inl rfl⟩
  | some set =>
      obtain ⟨letters, blank⟩ := set.exists_render_toList depth rest
      exact ⟨' ', letters, blank, .inr rfl⟩

/-- A readable heading starts with a letter of a name. -/
theorem exists_heading_toList {field : FieldSelection}
    (readable : field.Readable) (rest : List Char) :
    ∃ letter letters, field.heading.toList ++ rest = letter :: letters ∧
      letter ≠ ' ' ∧ isNameCharacter letter = true := by
  have starts :
      ∀ {name : String} (others : List Char), isGraphqlName name = true →
        ∃ letter letters,
          name.toList ++ others = letter :: letters ∧ letter ≠ ' ' ∧
          isNameCharacter letter = true := by
    intro name others named
    cases letters : name.toList with
    | nil => exact absurd letters (isGraphqlName_ne_empty named)
    | cons letter more =>
        have inName : isNameCharacter letter = true :=
          isNameCharacter_of_mem named
            (by rw [letters]; exact List.mem_cons_self)
        refine ⟨letter, more ++ others, rfl, ?_, inName⟩
        rintro rfl
        exact absurd inName (by decide)
  rw [FieldSelection.heading_toList]
  cases key : field.responseAlias with
  | none => exact starts _ readable.name
  | some name =>
      rw [Option.elim_some, List.append_assoc]
      exact starts _ (readable.responseAlias name key)

/-- What follows the fields of a set is no field. -/
theorem startsBare_fragments (depth : Nat)
    (fragments : List (String × SelectionSet)) (rest : List Char) :
    StartsBare ((renderFragments (depth + 1) fragments).toList ++
      ((indentation depth).toList ++ '\x7d' :: rest)) := by
  cases fragments with
  | nil => exact ⟨depth, '\x7d', rest, rfl, by decide, by decide⟩
  | cons fragment fragments =>
      rw [renderFragments_toList]
      exact ⟨depth + 1, '.', _, rfl, by decide, by decide⟩

/-- A field is no bare line. -/
theorem startsBare_ne_field {rest others : List Char} (bare : StartsBare rest)
    {field : FieldSelection} (readable : field.Readable) (depth : Nat) :
    rest ≠ (indentation depth).toList ++ (field.heading.toList ++ others) := by
  obtain ⟨other, mark, letters, rfl, noBlank, noName⟩ := bare
  obtain ⟨letter, more, starts, letterBare, inName⟩ :=
    exists_heading_toList readable others
  intro same
  rw [starts] at same
  obtain ⟨_, rfl, _⟩ := indentation_cut noBlank letterBare same
  rw [inName] at noName
  cases noName

/-- The line that asks for the name of the type is none of the fields and no
bare line. -/
theorem typename_ne_fields {fields : List FieldSelection}
    {rest others : List Char}
    (readable : ∀ field ∈ fields, field.Readable) (bare : StartsBare rest)
    (depth : Nat) :
    (indentation depth).toList ++ (typenameKey.toList ++ ['\n']) ++ others ≠
      (renderFields depth fields).toList ++ rest := by
  rw [List.append_assoc, List.append_assoc, List.singleton_append]
  cases fields with
  | nil =>
      intro same
      obtain ⟨other, mark, letters, rfl, noBlank, noName⟩ := bare
      have starts : typenameKey.toList ++ '\n' :: others =
          '_' :: ("_typename".toList ++ '\n' :: others) := rfl
      rw [starts] at same
      obtain ⟨_, rfl, _⟩ := indentation_cut (by decide) noBlank same
      exact absurd noName (by decide)
  | cons field fields =>
      rw [renderFields, String.toList_append, List.append_assoc,
        renderField_toList]
      intro same
      exact FieldSelection.heading_ne_typename
        (readable field List.mem_cons_self) (endsHeading_selections depth _ _)
        (List.append_cancel_left same)

/-- Lines that ask for the name of the type or do not are cut off before the
fields. -/
theorem typename_cut {asks otherAsks : Bool}
    {fields others : List FieldSelection} {depth : Nat} {rest rests : List Char}
    (readable : ∀ field ∈ fields, field.Readable)
    (otherReadable : ∀ field ∈ others, field.Readable) (bare : StartsBare rest)
    (otherBare : StartsBare rests)
    (same :
      (if asks = true then
        (indentation depth).toList ++ (typenameKey.toList ++ ['\n'])
          else []) ++ ((renderFields depth fields).toList ++ rest) =
        (if otherAsks = true then
          (indentation depth).toList ++ (typenameKey.toList ++ ['\n'])
          else []) ++ ((renderFields depth others).toList ++ rests)) :
    (renderFields depth fields).toList ++ rest =
      (renderFields depth others).toList ++ rests := by
  split at same
  · split at same
    · exact List.append_cancel_left same
    · exact absurd same (typename_ne_fields otherReadable otherBare depth)
  · split at same
    · exact absurd same.symm (typename_ne_fields readable bare depth)
    · exact same

theorem isEmpty_asWrittenFragments (fragments : List (String × SelectionSet)) :
    (asWrittenFragments fragments).isEmpty = fragments.isEmpty := by
  cases fragments <;> rfl

mutual

/-- The text of a set is cut off where it ends. -/
theorem render_cut (set other : SelectionSet) (readable : set.Each Readable)
    (otherReadable : other.Each Readable) (depth : Nat)
    {rest others : List Char}
    (same :
      (set.render depth).toList ++ rest =
        (other.render depth).toList ++ others) :
    set.asWritten = other.asWritten ∧ rest = others := by
  cases set with
  | mk requiresTypename fields fragments =>
      cases other with
      | mk otherRequires otherFields otherFragments =>
          obtain ⟨own, inFields, inFragments⟩ := readable
          obtain ⟨otherOwn, inOtherFields, inOtherFragments⟩ := otherReadable
          rw [render_toList, render_toList] at same
          have sameLines :=
            (List.cons.inj (List.cons.inj (List.cons.inj same).2).2).2
          have bare := startsBare_fragments depth fragments ('\n' :: rest)
          have otherBare :=
            startsBare_fragments depth otherFragments ('\n' :: others)
          have sameTexts :=
            typename_cut own.fields otherOwn.fields bare otherBare sameLines
          obtain ⟨sameFields, sameEnds⟩ :=
            renderFields_cut fields otherFields own.fields inFields
              otherOwn.fields inOtherFields (depth + 1) bare otherBare sameTexts
          obtain ⟨sameFragments, sameRest⟩ :=
            renderFragments_cut fragments otherFragments own.fragments
              inFragments otherOwn.fragments inOtherFragments depth sameEnds
          -- A set without fields and fragments has the line as well, so it is
          -- the fragments that tell whether the set requires it.
          have sameRequires : requiresTypename = otherRequires := by
            have isEmpty : fragments.isEmpty = otherFragments.isEmpty := by
              rw [← isEmpty_asWrittenFragments, sameFragments,
                isEmpty_asWrittenFragments]
            exact own.requiresTypename.trans
              ((congrArg not isEmpty).trans otherOwn.requiresTypename.symm)
          exact ⟨by
              rw [asWritten, asWritten, sameRequires, sameFields,
                sameFragments], (List.cons.inj sameRest).2⟩
termination_by structural set

theorem renderFields_cut (fields others : List FieldSelection)
    (readable : ∀ field ∈ fields, field.Readable)
    (inside : EachOfFields Readable fields)
    (otherReadable : ∀ field ∈ others, field.Readable)
    (otherInside : EachOfFields Readable others) (depth : Nat)
    {rest rests : List Char}
    (bare : StartsBare rest) (otherBare : StartsBare rests)
    (same : (renderFields depth fields).toList ++ rest =
      (renderFields depth others).toList ++ rests) :
    asWrittenFields fields = asWrittenFields others ∧ rest = rests := by
  cases fields with
  | nil =>
      cases others with
      | nil => exact ⟨rfl, same⟩
      | cons other others =>
          rw [renderFields, renderFields, String.toList_append,
            List.append_assoc, renderField_toList] at same
          exact absurd same
            (startsBare_ne_field bare (otherReadable other List.mem_cons_self)
              depth)
  | cons field fields =>
      cases others with
      | nil =>
          rw [renderFields, renderFields, String.toList_append,
            List.append_assoc, renderField_toList] at same
          exact absurd same.symm
            (startsBare_ne_field otherBare (readable field List.mem_cons_self)
              depth)
      | cons other others =>
          simp only [renderFields, String.toList_append,
            List.append_assoc] at same
          obtain ⟨first, others⟩ := List.forall_mem_cons.mp readable
          obtain ⟨otherFirst, otherOthers⟩ :=
            List.forall_mem_cons.mp otherReadable
          obtain ⟨sameField, sameFields⟩ :=
            renderField_cut field other first inside.1 otherFirst otherInside.1
              depth same
          obtain ⟨sameOthers, sameRest⟩ :=
            renderFields_cut fields _ others inside.2 otherOthers otherInside.2
              depth bare otherBare sameFields
          exact ⟨congrArg₂ List.cons sameField sameOthers, sameRest⟩
termination_by structural fields

theorem renderField_cut (field other : FieldSelection)
    (readable : field.Readable) (inside : EachOfField Readable field)
    (otherReadable : other.Readable) (otherInside : EachOfField Readable other)
    (depth : Nat) {rest rests : List Char}
    (same : (renderField depth field).toList ++ rest =
      (renderField depth other).toList ++ rests) :
    asWrittenField field = asWrittenField other ∧ rest = rests := by
  rw [renderField_toList, renderField_toList] at same
  obtain ⟨sameAlias, sameName, sameArguments, sameRest⟩ :=
    FieldSelection.heading_cut readable otherReadable
      (endsHeading_selections depth _ rest)
      (endsHeading_selections depth _ rests) (List.append_cancel_left same)
  cases field with
  | mk name responseAlias arguments selections =>
      cases other with
      | mk otherName otherAlias otherArguments otherSelections =>
          obtain rfl : responseAlias = otherAlias := sameAlias
          obtain rfl : name = otherName := sameName
          have written : arguments.map Argument.asWritten =
            otherArguments.map Argument.asWritten := sameArguments
          cases selections with
          | none =>
              cases otherSelections with
              | none =>
                  rw [asWrittenField, asWrittenField, written]
                  exact ⟨rfl, List.append_cancel_left sameRest⟩
              | some otherSet =>
                  obtain ⟨letters, blank⟩ :=
                    otherSet.exists_render_toList depth rests
                  have impossible : '\n' :: rest = ' ' :: letters := by
                    simpa [FieldSelection.selections] using sameRest.trans blank
                  exact absurd (List.cons.inj impossible).1 (by decide)
          | some set =>
              cases otherSelections with
              | none =>
                  obtain ⟨letters, blank⟩ := set.exists_render_toList depth rest
                  have impossible : ' ' :: letters = '\n' :: rests := by
                    simpa [FieldSelection.selections]
                      using blank.symm.trans sameRest
                  exact absurd (List.cons.inj impossible).1 (by decide)
              | some otherSet =>
                  obtain ⟨sameSet, sameEnd⟩ :=
                    render_cut set otherSet inside otherInside depth sameRest
                  rw [asWrittenField, asWrittenField, written, sameSet]
                  exact ⟨rfl, sameEnd⟩
termination_by structural field

theorem renderFragments_cut (fragments others : List (String × SelectionSet))
    (named : ∀ fragment ∈ fragments, isGraphqlName fragment.1 = true)
    (inside : EachOfFragments Readable fragments)
    (otherNamed : ∀ fragment ∈ others, isGraphqlName fragment.1 = true)
    (otherInside : EachOfFragments Readable others) (depth : Nat)
    {rest rests : List Char}
    (same : (renderFragments (depth + 1) fragments).toList ++
        ((indentation depth).toList ++ '\x7d' :: rest) =
      (renderFragments (depth + 1) others).toList ++
        ((indentation depth).toList ++ '\x7d' :: rests)) :
    asWrittenFragments fragments = asWrittenFragments others ∧
      rest = rests := by
  cases fragments with
  | nil =>
      cases others with
      | nil =>
          exact ⟨rfl, (List.cons.inj (List.append_cancel_left same)).2⟩
      | cons other others =>
          rw [renderFragments_toList] at same
          have mark := (indentation_cut (by decide) (by decide) same).2.1
          exact absurd mark (by decide)
  | cons fragment fragments =>
      cases others with
      | nil =>
          rw [renderFragments_toList] at same
          have mark := (indentation_cut (by decide) (by decide) same).2.1
          exact absurd mark (by decide)
      | cons other others =>
          obtain ⟨typeName, set⟩ := fragment
          obtain ⟨otherName, otherSet⟩ := other
          obtain ⟨first, others⟩ := List.forall_mem_cons.mp named
          obtain ⟨otherFirst, otherOthers⟩ := List.forall_mem_cons.mp otherNamed
          rw [renderFragments_toList, renderFragments_toList] at same
          have sameLine := List.append_cancel_left same
          simp only [List.cons.injEq, true_and] at sameLine
          have blank : ∀ (set : SelectionSet) (rest : List Char),
              Delimited ((set.render (depth + 1)).toList ++ rest) := by
            intro set rest
            obtain ⟨letters, starts⟩ :=
              set.exists_render_toList (depth + 1) rest
            rw [starts]
            exact .cons (by decide) letters
          obtain ⟨rfl, sameSets⟩ := name_cut first otherFirst (blank set _)
            (blank otherSet _) sameLine
          obtain ⟨sameSet, sameFragments⟩ :=
            render_cut set otherSet inside.1 otherInside.1 (depth + 1) sameSets
          obtain ⟨sameOthers, sameRest⟩ :=
            renderFragments_cut fragments _ others inside.2 otherOthers
              otherInside.2 depth sameFragments
          exact ⟨congrArg₂ List.cons (congrArg (Prod.mk typeName) sameSet)
              sameOthers, sameRest⟩
termination_by structural fragments

end

end SelectionSet

/-! ### Operations -/

/-- Characters in the written form of a type. -/
def isTypeCharacter (character : Char) : Bool :=
  isNameCharacter character || character == '[' || character == ']' ||
    character == '!'

theorem Wrapping.isTypeCharacter_of_mem_openings {count : Nat}
    {character : Char}
    (member : character ∈ (Wrapping.openings count).toList) :
    isTypeCharacter character = true := by
  induction count with
  | zero => simp [Wrapping.openings] at member
  | succ count induction =>
      rw [Wrapping.openings, String.toList_append, List.mem_append] at member
      rcases member with bracket | others
      · obtain rfl : character = '[' := by simpa using bracket
        decide
      · exact induction others

theorem Wrapping.isTypeCharacter_of_mem_mark {isNonNull : Bool}
    {character : Char}
    (member : character ∈ (Wrapping.mark isNonNull).toList) :
    isTypeCharacter character = true := by
  cases isNonNull with
  | false => simp [Wrapping.mark] at member
  | true =>
      obtain rfl : character = '!' := by simpa [Wrapping.mark] using member
      decide

theorem Wrapping.isTypeCharacter_of_mem_closings {lists : List Bool}
    {character : Char}
    (member : character ∈ (Wrapping.closings lists).toList) :
    isTypeCharacter character = true := by
  induction lists with
  | nil => simp [Wrapping.closings] at member
  | cons isNonNull lists induction =>
      simp only [Wrapping.closings, String.toList_append,
        List.mem_append] at member
      rcases member with (bracket | mark) | others
      · obtain rfl : character = ']' := by simpa using bracket
        decide
      · exact Wrapping.isTypeCharacter_of_mem_mark mark
      · exact induction others

/-- A type with a name of the query language is written with such characters
only. -/
theorem TypeRef.isTypeCharacter_of_mem_render {type : TypeRef}
    (named : isGraphqlName type.name = true) {character : Char}
    (member : character ∈ type.render.toList) :
    isTypeCharacter character = true := by
  simp only [TypeRef.render, Wrapping.render, String.toList_append,
    List.mem_append] at member
  rcases member with ((opening | inName) | mark) | closing
  · exact Wrapping.isTypeCharacter_of_mem_openings opening
  · simp [isTypeCharacter, isNameCharacter_of_mem named inName]
  · exact Wrapping.isTypeCharacter_of_mem_mark mark
  · exact Wrapping.isTypeCharacter_of_mem_closings closing

/-- A variable and its type have names of the query language. -/
structure VariableDefinition.IsNamed (definition : VariableDefinition) :
    Prop where
  name : isGraphqlName definition.name = true
  type :
    ∃ type : TypeRef,
      definition.type = type.render ∧ isGraphqlName type.name = true

theorem VariableDefinition.IsNamed.isTypeCharacter
    {definition : VariableDefinition}
    (named : definition.IsNamed) :
    ∀ character ∈ definition.type.toList, isTypeCharacter character = true := by
  obtain ⟨type, text, typeNamed⟩ := named.type
  rw [text]
  exact fun _ => TypeRef.isTypeCharacter_of_mem_render typeNamed

theorem VariableDefinition.render_cut {definition other : VariableDefinition}
    {rest others : List Char} (named : definition.IsNamed)
    (otherNamed : other.IsNamed) (ends : EndsValue rest)
    (otherEnds : EndsValue others)
    (same : definition.render.toList ++ rest = other.render.toList ++ others) :
    definition = other ∧ rest = others := by
  have stops : ∀ {rest : List Char}, EndsValue rest →
      ∀ letter ∈ rest.head?, isTypeCharacter letter = false := by
    rintro _ ⟨mark, letters, rfl, rfl | rfl⟩ letter ⟨⟩ <;> decide
  simp only [VariableDefinition.render, String.toList_append,
    String.reduceToList, List.append_assoc, List.cons_append,
    List.nil_append] at same
  obtain ⟨sameName, sameType⟩ := name_cut named.name otherNamed.name
    (.cons (by decide) _) (.cons (by decide) _) (List.cons.inj same).2
  obtain ⟨sameText, sameRest⟩ :=
    cut_after named.isTypeCharacter otherNamed.isTypeCharacter (stops ends)
      (stops otherEnds) (List.cons.inj (List.cons.inj sameType).2).2
  cases definition
  cases other
  exact ⟨congrArg₂ VariableDefinition.mk sameName (String.ext sameText),
    sameRest⟩

/-- All names in an operation are names of the query language. -/
structure Operation.IsNamed (operation : Operation) : Prop where
  declared : ∀ definition ∈ operation.variableDefinitions, definition.IsNamed
  selections : operation.selections.Each SelectionSet.IsNamed

/-- An operation whose text can be read back. -/
structure Operation.Readable (operation : Operation) : Prop where
  declared : ∀ definition ∈ operation.variableDefinitions, definition.IsNamed
  selections : operation.selections.Each SelectionSet.Readable

namespace Operation

/-- Declarations of variables are cut off before a blank. -/
theorem renderVariables_cut {definitions others : List VariableDefinition}
    (named : ∀ definition ∈ definitions, definition.IsNamed)
    (otherNamed : ∀ definition ∈ others, definition.IsNamed)
    {rest rests : List Char}
    (same : (renderVariables definitions).toList ++ ' ' :: rest =
      (renderVariables others).toList ++ ' ' :: rests) :
    definitions = others ∧ rest = rests := by
  have opens :
      ∀ (definition : VariableDefinition)
          (definitions : List VariableDefinition) (rest : List Char),
          (renderVariables (definition :: definitions)).toList ++ rest =
        '(' ::
          ((joined ", "
              ((definition :: definitions).map
                VariableDefinition.render)).toList ++ ')' :: rest) := by
    intro definition definitions rest
    simp [renderVariables]
  cases definitions with
  | nil =>
      cases others with
      | nil => exact ⟨rfl, (List.cons.inj same).2⟩
      | cons other others =>
          rw [opens] at same
          exact absurd (List.cons.inj same).1 (by decide)
  | cons definition definitions =>
      cases others with
      | nil =>
          rw [opens] at same
          exact absurd (List.cons.inj same).1 (by decide)
      | cons other others =>
          rw [opens, opens] at same
          have sameBetween :
              (definition :: definitions).map id = (other :: others).map id ∧
                ' ' :: rest = ' ' :: rests :=
            joined_cut EndsValue.comma EndsValue.closing (by decide)
              (fun definition member other otherMember =>
                VariableDefinition.render_cut (named definition member)
                  (otherNamed other otherMember))
              (List.cons_ne_nil _ _) (List.cons_ne_nil _ _)
                (List.cons.inj same).2
          rw [List.map_id, List.map_id] at sameBetween
          exact ⟨sameBetween.1, (List.cons.inj sameBetween.2).2⟩

/-- A readable operation can be read back from its text, but for the values of
its arguments, of which the texts can be read back. -/
theorem render_injective {operation other : Operation}
    (readable : operation.Readable) (otherReadable : other.Readable)
    (same : operation.render = other.render) :
    operation.kind = other.kind ∧
      operation.variableDefinitions = other.variableDefinitions ∧
      operation.selections.asWritten = other.selections.asWritten := by
  have sameText : operation.kind.keyword.toList ++
      ((renderVariables operation.variableDefinitions).toList ++
        ((operation.selections.render 0).toList ++ [])) =
      other.kind.keyword.toList ++
        ((renderVariables other.variableDefinitions).toList ++
          ((other.selections.render 0).toList ++ [])) := by
    simpa [render] using congrArg String.toList same
  have sameKind : operation.kind = other.kind := by
    cases kind : operation.kind <;> cases otherKind : other.kind
    case query.query => rfl
    case mutation.mutation => rfl
    all_goals
      rw [kind, otherKind] at sameText
      exact absurd (List.cons.inj sameText).1 (by decide)
  rw [sameKind] at sameText
  have sameParts := List.append_cancel_left sameText
  obtain ⟨letters, blank⟩ := operation.selections.exists_render_toList 0 []
  obtain ⟨otherLetters, otherBlank⟩ :=
    other.selections.exists_render_toList 0 []
  rw [blank, otherBlank] at sameParts
  obtain ⟨sameVariables, rfl⟩ :=
    renderVariables_cut readable.declared otherReadable.declared sameParts
  obtain ⟨sameSelections, _⟩ :=
    SelectionSet.render_cut operation.selections other.selections
      readable.selections otherReadable.selections 0
      (blank.trans otherBlank.symm)
  exact ⟨sameKind, sameVariables, sameSelections⟩

end Operation

end GraphPipeline
