import GraphPipeline.Proofs.ReferenceTexts

/-!
# Where values end

The text of an argument ends at a comma or at the closing parenthesis of the
arguments. Both may also stand inside of the text, between brackets or quotes,
so a reader that looks for the end keeps count of the brackets and passes over
strings.
-/

namespace GraphPipeline

/-- What is left of a text from the comma or the parenthesis at which a value in
it ends. -/
def afterValue : Nat → TextPlace → List Char → List Char
  | _, _, [] => []
  | depth, .code, character :: rest =>
      if depth = 0 ∧ (character = ',' ∨ character = ')') then character :: rest
      else if character = '"' then afterValue depth .string rest
      else if character = '[' ∨ character = '\x7b' then
        afterValue (depth + 1) .code rest
      else if character = ']' ∨ character = '\x7d' then
        afterValue (depth - 1) .code rest
      else afterValue depth .code rest
  | depth, .string, character :: rest =>
      afterValue depth
        (if character = '\\' then .escape
          else if character = '"' then .code else .string) rest
  | depth, .escape, _ :: rest => afterValue depth .string rest

/-- Inside of at least some brackets no value ends in a text, which closes what
it opens. -/
def Passes (least : Nat) (text : String) : Prop :=
  ∀ depth, least ≤ depth → ∀ rest,
    afterValue depth .code (text.toList ++ rest) = afterValue depth .code rest

/-- The characters that mean something to a reader that looks for the end of a
value. -/
def valueMarks : List Char :=
  [',', ')', '"', '[', '\x7b', ']', '\x7d']

/-- A text without such characters. -/
def IsPlain (text : String) : Prop :=
  ∀ mark ∈ valueMarks, mark ∉ text.toList

theorem IsPlain.of_forall {text : String} {holds : Char → Bool}
    (all : ∀ letter ∈ text.toList, holds letter = true)
    (excludes : ∀ mark ∈ valueMarks, holds mark = false) : IsPlain text := by
  intro mark known member
  have given := all mark member
  rw [excludes mark known] at given
  cases given

theorem forall_valueMarks {holds : Char → Prop} :
    (∀ mark ∈ valueMarks, holds mark) ↔
      holds ',' ∧ holds ')' ∧ holds '"' ∧ holds '[' ∧
      holds '\x7b' ∧ holds ']' ∧ holds '\x7d' := by
  simp [valueMarks]

theorem IsPlain.of_name {name : String} (named : isGraphqlName name = true) :
    IsPlain name := by
  refine .of_forall (fun _ => isNameCharacter_of_mem named)
    (forall_valueMarks.mpr ?_)
  refine ⟨?_, ?_, ?_, ?_, ?_, ?_, ?_⟩ <;> decide

namespace Passes

variable {least : Nat} {text other : String}

theorem of_plain (plain : IsPlain text) : Passes 0 text := by
  intro depth _ rest
  unfold IsPlain at plain
  generalize text.toList = letters at plain
  induction letters with
  | nil => rfl
  | cons letter letters induction =>
      have different : ∀ mark ∈ valueMarks, letter ≠ mark := by
        rintro mark known rfl
        exact plain letter known List.mem_cons_self
      have others := induction fun mark known inside =>
        plain mark known (List.mem_cons_of_mem _ inside)
      obtain ⟨comma, closing, quote, list, object, endOfList, endOfObject⟩ :=
        forall_valueMarks.mp different
      rw [List.cons_append, afterValue, if_neg (by simp [comma, closing]),
        if_neg quote, if_neg (by simp [list, object]),
        if_neg (by simp [endOfList, endOfObject])]
      exact others

theorem weaken (passes : Passes least text) {more : Nat}
    (deeper : least ≤ more) :
    Passes more text :=
  fun depth inside => passes depth (Nat.le_trans deeper inside)

theorem append (passes : Passes least text) (otherPasses : Passes least other) :
    Passes least (text ++ other) := by
  intro depth inside rest
  rw [String.toList_append, List.append_assoc, passes depth inside,
    otherPasses depth inside]

/-- Commas end no value between brackets. -/
theorem joined {texts : List String} (all : ∀ text ∈ texts, Passes 1 text) :
    Passes 1 (GraphPipeline.joined ", " texts) := by
  have comma : Passes 1 ", " := by
    intro depth inside rest
    have deep : depth ≠ 0 := Nat.ne_of_gt inside
    show afterValue depth .code (',' :: ' ' :: rest) = _
    simp [afterValue, deep]
  induction texts with
  | nil => exact fun _ _ _ => rfl
  | cons first texts induction =>
      have others :=
        induction fun text member => all text (List.mem_cons_of_mem _ member)
      cases texts with
      | nil => exact all first List.mem_cons_self
      | cons second texts =>
        exact ((all first List.mem_cons_self).append comma).append others

theorem opening {mark : Char} (opens : mark = '[' ∨ mark = '\x7b') (depth : Nat)
    (rest : List Char) :
    afterValue depth .code (mark :: rest) =
      afterValue (depth + 1) .code rest := by
  rcases opens with rfl | rfl <;> simp [afterValue]

theorem closing {mark : Char} (closes : mark = ']' ∨ mark = '\x7d')
    (depth : Nat) (rest : List Char) :
    afterValue (depth + 1) .code (mark :: rest) =
      afterValue depth .code rest := by
  rcases closes with rfl | rfl <;> simp [afterValue]

/-- Texts between brackets. -/
theorem between {texts : List String} (all : ∀ text ∈ texts, Passes 0 text)
    {opens closes : String} {left right : Char} (single : opens.toList = [left])
    (otherSingle : closes.toList = [right])
    (bracket : left = '[' ∨ left = '\x7b')
    (otherBracket : right = ']' ∨ right = '\x7d') :
    Passes 0 (opens ++ GraphPipeline.joined ", " texts ++ closes) := by
  intro depth _ rest
  have inside : Passes 1 (GraphPipeline.joined ", " texts) :=
    joined fun text member => (all text member).weaken (Nat.zero_le 1)
  rw [String.toList_append, String.toList_append, single, otherSingle,
    List.append_assoc, List.append_assoc, List.singleton_append,
    List.singleton_append, opening bracket, inside _ (Nat.le_add_left 1 depth),
    closing otherBracket]

/-- A name before a value. -/
theorem named {name : String} (nameOf : IsPlain name) (passes : Passes 0 text) :
    Passes 0 (name ++ ": " ++ text) := by
  have colon : IsPlain ": " := by simp [IsPlain, valueMarks]
  exact ((of_plain nameOf).append (of_plain colon)).append passes

/-! ### Literals -/

theorem quoted (text : String) : Passes 0 (Json.quoted text) := by
  intro depth _ rest
  have reads : ReadsStrings (afterValue depth) :=
    ⟨fun _ _ => rfl, fun _ _ => rfl⟩
  rw [Json.quoted, String.toList_ofList, List.append_assoc,
    List.singleton_append]
  show afterValue depth .code ('"' :: _) = _
  rw [afterValue, if_neg (by simp), if_pos rfl]
  exact reads.closed text rest

end Passes

theorem Json.Number.isPlain_render (number : Json.Number) :
    IsPlain number.render := by
  refine .of_forall (fun _ => isNumeral_of_mem_render)
    (forall_valueMarks.mpr ?_)
  refine ⟨?_, ?_, ?_, ?_, ?_, ?_, ?_⟩ <;> decide

mutual

theorem Json.passes (value : Json) (named : value.isNamed = true) :
    Passes 0 value.renderLiteral := by
  cases value with
  | null =>
    exact .of_plain
      (by simp [IsPlain, valueMarks, Json.renderLiteral, Json.render])
  | bool value =>
      cases value <;>
        exact .of_plain
          (by simp [IsPlain, valueMarks, Json.renderLiteral, Json.render])
  | number value => exact .of_plain value.isPlain_render
  | string value => exact .quoted value
  | array items =>
    exact .between (Json.passesItems items named) rfl rfl (.inl rfl) (.inl rfl)
  | object members =>
      exact .between (Json.passesMembers members named) rfl rfl (.inr rfl)
        (.inr rfl)

theorem Json.passesItems (items : List Json)
    (named : Json.isNamedItems items = true) :
    ∀ text ∈ Json.renderLiteralItems items, Passes 0 text := by
  cases items with
  | nil => exact fun _ member => by cases member
  | cons item items =>
      rw [Json.isNamedItems, Bool.and_eq_true] at named
      exact List.forall_mem_cons.mpr
        ⟨Json.passes item named.1, Json.passesItems items named.2⟩

theorem Json.passesMembers (members : List (String × Json))
    (named : Json.isNamedMembers members = true) :
    ∀ text ∈ Json.renderLiteralMembers members, Passes 0 text := by
  cases members with
  | nil => exact fun _ member => by cases member
  | cons member members =>
      obtain ⟨key, value⟩ := member
      rw [Json.isNamedMembers, Bool.and_eq_true, Bool.and_eq_true] at named
      exact List.forall_mem_cons.mpr
        ⟨.named (.of_name named.1.1) (Json.passes value named.1.2),
          Json.passesMembers members named.2⟩

end

/-! ### Argument values -/

mutual

/-- No value ends before its text does. -/
theorem ArgumentValue.passes (value : ArgumentValue)
    (named : value.isNamed = true) :
    Passes 0 value.render := by
  cases value with
  | literal value => exact Json.passes value named
  | enumeration name => exact .of_plain (.of_name named)
  | list items =>
      exact .between (ArgumentValue.passesItems items named) rfl rfl (.inl rfl)
        (.inl rfl)
  | object fields =>
      exact .between (ArgumentValue.passesFields fields named) rfl rfl
        (.inr rfl) (.inr rfl)
  | variableRef name =>
      have dollar : IsPlain "$" := by simp [IsPlain, valueMarks]
      exact (Passes.of_plain dollar).append (.of_plain (.of_name named))
  | omitted =>
    exact .of_plain (by simp [IsPlain, valueMarks, ArgumentValue.render])

theorem ArgumentValue.passesItems (items : List ArgumentValue)
    (named : ArgumentValue.isNamedItems items = true) :
    ∀ text ∈ ArgumentValue.renderItems items, Passes 0 text := by
  cases items with
  | nil => exact fun _ member => by cases member
  | cons item items =>
      rw [ArgumentValue.isNamedItems, Bool.and_eq_true] at named
      exact List.forall_mem_cons.mpr
        ⟨ArgumentValue.passes item named.1,
         ArgumentValue.passesItems items named.2⟩

theorem ArgumentValue.passesFields (fields : List (InputField ArgumentValue))
    (named : ArgumentValue.isNamedFields fields = true) :
    ∀ text ∈ ArgumentValue.renderFields fields, Passes 0 text := by
  cases fields with
  | nil => exact fun _ member => by cases member
  | cons field fields =>
      obtain ⟨name, type, value⟩ := field
      rw [ArgumentValue.isNamedFields, Bool.and_eq_true,
        Bool.and_eq_true] at named
      have others := ArgumentValue.passesFields fields named.2
      rw [ArgumentValue.renderFields]
      split
      · exact others
      · exact List.forall_mem_cons.mpr
          ⟨.named (.of_name named.1.1) (ArgumentValue.passes value named.1.2),
           others⟩

end

/-- A comma or a parenthesis, at which a value ends. -/
def EndsValue (rest : List Char) : Prop :=
  ∃ mark letters, rest = mark :: letters ∧ (mark = ',' ∨ mark = ')')

/-- A text can be cut in one way after a value. -/
theorem ArgumentValue.render_cut {value other : ArgumentValue}
    (named : value.isNamed = true) (otherNamed : other.isNamed = true)
    {rest others : List Char} (ends : EndsValue rest)
    (otherEnds : EndsValue others)
    (same : value.render.toList ++ rest = other.render.toList ++ others) :
    value.render = other.render ∧ rest = others := by
  have cut : ∀ {rest}, EndsValue rest → afterValue 0 .code rest = rest := by
    rintro _ ⟨mark, letters, rfl, comma | closing⟩
    · rw [afterValue, if_pos ⟨rfl, .inl comma⟩]
    · rw [afterValue, if_pos ⟨rfl, .inr closing⟩]
  have sameRest : rest = others := by
    rw [← cut ends, ← value.passes named 0 (Nat.le_refl 0), same,
      other.passes otherNamed 0 (Nat.le_refl 0), cut otherEnds]
  rw [sameRest] at same
  exact ⟨String.ext (List.append_cancel_right same), sameRest⟩

end GraphPipeline
