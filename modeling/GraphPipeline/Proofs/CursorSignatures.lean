import GraphPipeline.Proofs.Compile.Action
import GraphPipeline.Proofs.ResponseKeys

/-!
# Signatures with cursors

The signature of a paginated field ends with the variable of its cursor.  The
variables of two connections differ, and no field that a caller writes ends in
such a variable, as long as its enumeration values and variables are names of
the query language and none of its variables is a cursor variable.
-/

namespace GraphPipeline

/-- Whether an argument value cannot be taken for the variable of a cursor. -/
def ArgumentValue.avoids (subqueries : List Subquery) : ArgumentValue → Bool
  | .enumeration name => isGraphqlName name
  | .variableRef name =>
      isGraphqlName name &&
        subqueries.all fun subquery => subquery.variableName != name
  | _ => true

/-! ### The text of numbers -/

/-- Characters in the text of a number. -/
def isNumeral (character : Char) : Bool :=
  character.isDigit || character == '-' || character == '+' ||
    character == '.' ||
    character == 'e'

theorem isNumeral_of_mem_toDigits {number : Nat} {character : Char}
    (member : character ∈ Nat.toDigits 10 number) :
    isNumeral character = true := by
  have digit := Nat.isDigit_of_mem_toDigits (by decide) (by decide) member
  simp [isNumeral, digit]

theorem isNumeral_of_mem_shortest {number : Binary64} {character : Char}
    (member : character ∈ number.shortest.digits) :
    isNumeral character = true := by
  simp only [Binary64.shortest, Binary64.trimZeros, List.mem_reverse] at member
  have kept := (List.dropWhile_suffix _).subset member
  exact isNumeral_of_mem_toDigits (List.mem_reverse.mp kept)

theorem isNumeral_of_mem_plain {decimal : DecimalDigits} {character : Char}
    (digits : ∀ digit ∈ decimal.digits, isNumeral digit = true)
    (member : character ∈ decimal.plain) : isNumeral character = true := by
  unfold DecimalDigits.plain at member
  dsimp only at member
  have zero : isNumeral '0' = true := by decide
  have point : isNumeral '.' = true := by decide
  split at member
  · simp only [List.cons_append, List.mem_cons, List.mem_append,
      List.mem_replicate] at member
    rcases member with rfl | rfl | ⟨_, rfl⟩ | inside
    · exact zero
    · exact point
    · exact zero
    · exact digits _ inside
  · split at member
    · rcases List.mem_append.mp member with before | after
      · exact digits _ (List.mem_of_mem_take before)
      · rcases List.mem_cons.mp after with rfl | after
        · exact point
        · exact digits _ (List.mem_of_mem_drop after)
    · simp only [List.mem_append, List.mem_replicate, List.mem_cons,
        List.not_mem_nil, or_false] at member
      rcases member with (inside | ⟨_, rfl⟩) | rfl | rfl
      · exact digits _ inside
      · exact zero
      · exact point
      · exact zero

theorem isNumeral_of_mem_scientific {decimal : DecimalDigits} {character : Char}
    (digits : ∀ digit ∈ decimal.digits, isNumeral digit = true)
    (member : character ∈ decimal.scientific) : isNumeral character = true := by
  unfold DecimalDigits.scientific at member
  simp only [List.mem_append, List.mem_cons] at member
  rcases member with mantissa | rfl | sign | power
  · split at mantissa
    · rename_i first second rest same
      rw [same] at digits
      rcases List.mem_cons.mp mantissa with rfl | mantissa
      · exact digits _ List.mem_cons_self
      · rcases List.mem_cons.mp mantissa with rfl | mantissa
        · decide
        · exact digits _ (List.mem_cons_of_mem _ mantissa)
    · exact digits _ mantissa
  · decide
  · rw [sign]
    split <;> decide
  · exact isNumeral_of_mem_toDigits power

theorem isNumeral_of_mem_render {number : Json.Number} {character : Char}
    (member : character ∈ number.render.toList) :
    isNumeral character = true := by
  cases number with
  | integer value =>
      simp only [Json.Number.render, Int.toString_eq_repr,
        Int.repr_eq_if] at member
      split at member
      · rw [Nat.toList_repr] at member
        exact isNumeral_of_mem_toDigits member
      · simp only [String.toList_append, List.mem_append,
          Nat.toList_repr] at member
        rcases member with sign | digits
        · have minus : character = '-' := by simpa using sign
          rw [minus]
          decide
        · exact isNumeral_of_mem_toDigits digits
  | float value =>
      have magnitude :
          ∀ {character}, character ∈ (if value.isZero then ['0', '.', '0']
          else value.shortest.render Json.numberLayout) →
              isNumeral character = true := by
        intro character member
        split at member
        · revert member
          simp only [List.mem_cons, List.not_mem_nil, or_false]
          rintro (rfl | rfl | rfl) <;> decide
        · unfold DecimalDigits.render at member
          dsimp only at member
          split at member
          · exact isNumeral_of_mem_plain (fun _ => isNumeral_of_mem_shortest)
              member
          · exact isNumeral_of_mem_scientific
              (fun _ => isNumeral_of_mem_shortest) member
      simp only [Json.Number.render, Binary64.render,
        String.toList_ofList] at member
      split at member
      · rcases List.mem_cons.mp member with rfl | member
        · decide
        · exact magnitude member
      · exact magnitude member

/-! ### The end of a signature -/

theorem exists_prefix_joined (separator : String) (parts : List String)
    (last : String) :
    ∃ before, joined separator (parts ++ [last]) = before ++ last := by
  induction parts with
  | nil => exact ⟨"", by simp [joined]⟩
  | cons part parts induction =>
      obtain ⟨before, same⟩ := induction
      cases parts with
      | nil => exact ⟨part ++ separator, by simp [joined]⟩
      | cons next rest =>
          refine ⟨part ++ separator ++ before, ?_⟩
          simp only [List.cons_append] at same
          simp only [List.cons_append, joined, same, String.append_assoc]

/-- The text of a signature ends with the value of its last argument. -/
theorem exists_signature_eq (name : String) (arguments : List Argument)
    (last : Argument) :
    ∃ before, (signature name (arguments ++ [last])).toList =
      before ++ ' ' :: last.value.render.toList ++ [')'] := by
  obtain ⟨before, same⟩ :=
    exists_prefix_joined ", " (arguments.map Argument.render) last.render
  refine ⟨name.toList ++ '(' :: before.toList ++ last.name.toList ++ [':'], ?_⟩
  have parts : (arguments ++ [last]).map Argument.render =
      arguments.map Argument.render ++ [last.render] := by
    simp
  cases shape : arguments ++ [last] with
  | nil => simp at shape
  | cons first rest =>
      rw [signature, renderAll_cons, ← shape, parts, same]
      simp [Argument.render]

/-- A list has one way of being cut at the last occurrence of an element. -/
private theorem cut_at_last {α : Type} {mark : α}
    {left right lefts rights : List α}
    (rightFree : mark ∉ right) (rightsFree : mark ∉ rights)
    (equality : left ++ mark :: right = lefts ++ mark :: rights) :
    left = lefts ∧ right = rights := by
  rcases List.append_eq_append_iff.mp equality with
    ⟨more, same, rest⟩ | ⟨more, same, rest⟩
  · cases more with
    | nil => exact ⟨by simpa using same.symm, by simpa using rest⟩
    | cons first more =>
        simp only [List.cons_append, List.cons.injEq] at rest
        exact absurd (by rw [rest.2]; simp) rightFree
  · cases more with
    | nil => exact ⟨by simpa using same, by simpa using rest.symm⟩
    | cons first more =>
        simp only [List.cons_append, List.cons.injEq] at rest
        exact absurd (by rw [rest.2]; simp) rightsFree

/-- What stands after the last mark of a list holds all that the list ends
with. -/
private theorem suffix_of_notMem {α : Type} {mark gap : α}
    {left right lefts rights : List α}
    (rightFree : mark ∉ right) (apart : gap ≠ mark)
    (equality : left ++ gap :: right = lefts ++ mark :: rights) :
    gap ∈ rights := by
  rcases List.append_eq_append_iff.mp equality with
    ⟨more, same, rest⟩ | ⟨more, same, rest⟩
  · cases more with
    | nil => exact absurd (List.cons.inj rest).1 apart
    | cons first more =>
        simp only [List.cons_append, List.cons.injEq] at rest
        exact absurd (by rw [rest.2]; simp) rightFree
  · cases more with
    | nil => exact absurd (List.cons.inj rest).1.symm apart
    | cons first more =>
        simp only [List.cons_append, List.cons.injEq] at rest
        rw [rest.2]
        simp

theorem isGraphqlName_cursorName (id : SubqueryId) :
    isGraphqlName (CompileState.cursorName id) = true :=
  isGraphqlName_numbered (by decide) id

theorem isNameCharacter_of_mem_cursorName {id : SubqueryId} {character : Char}
    (member : character ∈ (CompileState.cursorName id).toList) :
    isNameCharacter character = true :=
  isNameCharacter_of_mem (isGraphqlName_cursorName id) member

private theorem notMem_of_name {letters : List Char} {character : Char}
    (named : ∀ letter ∈ letters, isNameCharacter letter = true)
    (other : isNameCharacter character = false) : character ∉ letters := by
  intro member
  rw [named character member] at other
  cases other

/-- The signatures of the fields of two connections differ. -/
theorem cursor_injective {name other : String}
    {arguments others : List Argument} {first second : SubqueryId}
    (same : signature name
        (arguments ++
          [⟨"after", .variableRef (CompileState.cursorName first)⟩]) =
      signature other
        (others ++
          [⟨"after", .variableRef (CompileState.cursorName second)⟩])) :
    first = second := by
  obtain ⟨left, leftText⟩ := exists_signature_eq name arguments
    ⟨"after", .variableRef (CompileState.cursorName first)⟩
  obtain ⟨right, rightText⟩ := exists_signature_eq other others
    ⟨"after", .variableRef (CompileState.cursorName second)⟩
  rw [same, rightText] at leftText
  have texts :
      (right ++ [' ']) ++ '$' :: (CompileState.cursorName second).toList =
        (left ++ [' ']) ++ '$' :: (CompileState.cursorName first).toList := by
    simpa [ArgumentValue.render] using List.append_cancel_right leftText
  have noDollar : ∀ id, '$' ∉ (CompileState.cursorName id).toList := fun id =>
    notMem_of_name (fun _ => isNameCharacter_of_mem_cursorName) (by decide)
  exact CompileState.cursorName_injective
    (String.ext (cut_at_last (noDollar second) (noDollar first) texts).2.symm)

/-- The text of a value does not end in a cursor variable after a blank. -/
private theorem render_ne_cursor {subqueries : List Subquery}
    {value : ArgumentValue} {subquery : Subquery} {id : SubqueryId}
    (avoids : value.avoids subqueries = true)
    (written : value.isOmitted = false) (member : subquery ∈ subqueries)
    (numbered : subquery.variableName = CompileState.cursorName id)
    (left right : List Char) :
    left ++ ' ' :: value.render.toList ≠
      right ++ '$' :: (CompileState.cursorName id).toList := by
  intro same
  have cursorNamed : ∀ letter ∈ (CompileState.cursorName id).toList,
      isNameCharacter letter = true :=
        fun _ => isNameCharacter_of_mem_cursorName
  have dollar : '$' ∉ (CompileState.cursorName id).toList :=
    notMem_of_name cursorNamed (by decide)
  have blank : ' ' ∉ (CompileState.cursorName id).toList :=
    notMem_of_name cursorNamed (by decide)
  have noMark : '$' ∉ value.render.toList → False := fun free =>
    blank (suffix_of_notMem free (by decide) same)
  have ending : ∀ (before : List Char) (last : Char),
      value.render.toList = before ++ [last] → isNameCharacter last = false →
        False := by
    intro before last ends other
    cases letters : (CompileState.cursorName id).toList.reverse with
    | nil =>
        have empty := List.reverse_eq_nil_iff.mp letters
        simp [CompileState.cursorName] at empty
    | cons first rest =>
        have text := List.reverse_eq_cons_iff.mp letters
        have member : first ∈ (CompileState.cursorName id).toList := by
          rw [text]
          simp
        have texts : (left ++ ' ' :: before) ++ [last] =
            (right ++ '$' :: rest.reverse) ++ [first] := by
          rw [ends, text] at same
          simpa using same
        have equal : last = first := by
          simpa using (List.append_inj' texts rfl).2
        rw [equal, cursorNamed first member] at other
        cases other
  cases value with
  | enumeration name =>
      exact noMark (notMem_of_name (fun _ => isNameCharacter_of_mem avoids)
        (by decide))
  | variableRef name =>
      simp only [ArgumentValue.avoids, Bool.and_eq_true, List.all_eq_true,
        bne_iff_ne] at avoids
      have free : '$' ∉ name.toList :=
        notMem_of_name (fun _ => isNameCharacter_of_mem avoids.1) (by decide)
      have texts : (left ++ [' ']) ++ '$' :: name.toList =
          right ++ '$' :: (CompileState.cursorName id).toList := by
        simpa [ArgumentValue.render] using same
      have names : name = CompileState.cursorName id :=
        String.ext (cut_at_last free dollar texts).2
      exact avoids.2 subquery member (numbered.trans names.symm)
  | omitted => simp [ArgumentValue.isOmitted] at written
  | list items =>
      refine ending
        ('[' :: (joined ", " (ArgumentValue.renderItems items)).toList) ']' ?_
        (by decide)
      simp [ArgumentValue.render]
  | object fields =>
      refine ending
        ('\x7b' :: (joined ", " (ArgumentValue.renderFields fields)).toList)
        '\x7d' ?_ (by decide)
      simp [ArgumentValue.render]
  | literal value =>
      cases value with
      | null => exact noMark (by decide)
      | bool value => cases value <;> exact noMark (by decide)
      | number value =>
          refine noMark fun member => ?_
          have numeral := isNumeral_of_mem_render member
          revert numeral
          decide
      | string text =>
          refine ending ('"' :: text.toList.flatMap Json.escaped) '"' ?_
            (by decide)
          simp [ArgumentValue.render, Json.renderLiteral, Json.render,
            Json.quoted]
      | array items =>
          refine ending
            ('[' :: (joined ", " (Json.renderLiteralItems items)).toList) ']' ?_
            (by decide)
          simp [ArgumentValue.render, Json.renderLiteral]
      | object members =>
          refine ending
            ('\x7b' :: (joined ", " (Json.renderLiteralMembers members)).toList)
              '\x7d' ?_
            (by decide)
          simp [ArgumentValue.render, Json.renderLiteral]

/-- No field a caller writes has the signature of a paginated field. -/
theorem signature_ne_cursor {subqueries : List Subquery} {subquery : Subquery}
    {id : SubqueryId} {name other : String} {arguments others : List Argument}
    (named : isGraphqlName name = true)
    (avoids : ∀ argument ∈ arguments, argument.value.avoids subqueries = true)
    (written : ∀ argument ∈ arguments, argument.value.isOmitted = false)
    (member : subquery ∈ subqueries)
    (numbered : subquery.variableName = CompileState.cursorName id) :
    signature name arguments ≠ signature other
      (others ++ [⟨"after", .variableRef subquery.variableName⟩]) := by
  intro same
  rw [numbered] at same
  obtain ⟨before, text⟩ := exists_signature_eq other others
    ⟨"after", .variableRef (CompileState.cursorName id)⟩
  rcases List.eq_nil_or_concat arguments with rfl | ⟨init, last, shape⟩
  · have closing : ')' ∈ name.toList := by
      have plain : (signature name []).toList = name.toList := by
        simp [signature, renderAll_nil]
      rw [← plain, same, text]
      simp
    exact absurd closing
      (notMem_of_name (fun _ => isNameCharacter_of_mem named) (by decide))
  · rw [List.concat_eq_append] at shape
    subst shape
    obtain ⟨left, leftText⟩ := exists_signature_eq name init last
    rw [same, text] at leftText
    have texts := List.append_cancel_right leftText
    refine render_ne_cursor (avoids last (by simp)) (written last (by simp))
      member numbered
      left (before ++ [' ']) ?_
    simpa [ArgumentValue.render] using texts.symm

end GraphPipeline
