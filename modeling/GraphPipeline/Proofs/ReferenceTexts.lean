import GraphPipeline.Proofs.CursorSignatures
import GraphPipeline.Proofs.VariableReferences

/-!
# References in the text of arguments

The variables that arguments refer to can be read off their text: a dollar sign
starts the name of a variable, unless it stands in a string.  This takes names
for granted that are names of the query language, since any other name could
hold a dollar sign or a quote itself.  Fields with one signature then refer to
the same variables.
-/

namespace GraphPipeline

/-! ### Names of the query language -/

namespace Json

mutual

/-- Whether the keys in a literal are names of the query language. -/
def isNamed : Json → Bool
  | .array items => isNamedItems items
  | .object members => isNamedMembers members
  | .null => true
  | .bool _ => true
  | .number _ => true
  | .string _ => true

def isNamedItems : List Json → Bool
  | [] => true
  | item :: items => item.isNamed && isNamedItems items

def isNamedMembers : List (String × Json) → Bool
  | [] => true
  | (key, value) :: members =>
    isGraphqlName key && value.isNamed && isNamedMembers members

end

end Json

namespace ArgumentValue

mutual

/-- Whether all that is written without quotes in a value is a name of the query
language. -/
def isNamed : ArgumentValue → Bool
  | .literal value => value.isNamed
  | .enumeration name => isGraphqlName name
  | .list items => isNamedItems items
  | .object fields => isNamedFields fields
  | .variableRef name => isGraphqlName name
  | .omitted => true

def isNamedItems : List ArgumentValue → Bool
  | [] => true
  | item :: items => item.isNamed && isNamedItems items

def isNamedFields : List (InputField ArgumentValue) → Bool
  | [] => true
  | ⟨name, _, value⟩ :: fields =>
      isGraphqlName name && value.isNamed && isNamedFields fields

end

end ArgumentValue

def Argument.isNamed (argument : Argument) : Bool :=
  isGraphqlName argument.name && argument.value.isNamed

/-! ### Reading variables off a text -/

/-- What a reader of a text has come to. -/
inductive TextPlace where
  | code
  | string
  | escape

/-- The names of the variables in a text. -/
def variablesFrom : TextPlace → List Char → List String
  | _, [] => []
  | .code, character :: rest =>
      if character = '$' then
        String.ofList (rest.takeWhile isNameCharacter) ::
          variablesFrom .code rest
      else variablesFrom (if character = '"' then .string else .code) rest
  | .string, character :: rest =>
      variablesFrom
        (if character = '\\' then .escape
          else if character = '"' then .code else .string) rest
  | .escape, _ :: rest => variablesFrom .string rest

/-- A text that continues no name. -/
def Delimited (letters : List Char) : Prop :=
  ∀ letter ∈ letters.head?, isNameCharacter letter = false

theorem Delimited.cons {mark : Char} (noName : isNameCharacter mark = false)
    (letters : List Char) : Delimited (mark :: letters) := by
  rintro letter ⟨⟩
  exact noName

/-- A text holds the names of some variables, whatever it is followed by. -/
def Mentions (text : String) (names : List String) : Prop :=
  ∀ rest, Delimited rest →
    variablesFrom .code (text.toList ++ rest) =
      names ++ variablesFrom .code rest

/-- A text without variables and strings. -/
def IsQuiet (text : String) : Prop :=
  ∀ letter ∈ text.toList, letter ≠ '$' ∧ letter ≠ '"'

theorem variablesFrom_quiet {letters : List Char}
    (quiet : ∀ letter ∈ letters, letter ≠ '$' ∧ letter ≠ '"')
    (rest : List Char) :
    variablesFrom .code (letters ++ rest) = variablesFrom .code rest := by
  induction letters with
  | nil => rfl
  | cons letter letters induction =>
      obtain ⟨noVariable, noString⟩ := quiet letter List.mem_cons_self
      rw [List.cons_append, variablesFrom, if_neg noVariable, if_neg noString]
      exact induction
        fun other member => quiet other (List.mem_cons_of_mem _ member)

theorem IsQuiet.of_forall {text : String} {holds : Char → Bool}
    (all : ∀ letter ∈ text.toList, holds letter = true)
    (noVariable : holds '$' = false) (noString : holds '"' = false) :
    IsQuiet text := by
  intro letter member
  have given := all letter member
  constructor
  · rintro rfl
    rw [noVariable] at given
    cases given
  · rintro rfl
    rw [noString] at given
    cases given

theorem IsQuiet.of_name {name : String} (named : isGraphqlName name = true) :
    IsQuiet name :=
  .of_forall (fun _ => isNameCharacter_of_mem named) (by decide) (by decide)

theorem IsQuiet.append {text other : String} (quiet : IsQuiet text)
    (otherQuiet : IsQuiet other) : IsQuiet (text ++ other) := by
  intro letter member
  rw [String.toList_append] at member
  rcases List.mem_append.mp member with first | second
  · exact quiet letter first
  · exact otherQuiet letter second

theorem IsQuiet.mentions {text : String} (quiet : IsQuiet text) :
    Mentions text [] :=
  fun rest _ => variablesFrom_quiet quiet rest

/-- A text before another holds no more variables if it is quiet. -/
theorem IsQuiet.before {text other : String} {names : List String}
    (quiet : IsQuiet text) (mentions : Mentions other names) :
    Mentions (text ++ other) names := by
  intro rest delimited
  rw [String.toList_append, List.append_assoc, variablesFrom_quiet quiet]
  exact mentions rest delimited

/-- Two texts hold the variables of both if the second continues no name. -/
theorem Mentions.append {text other : String} {names others : List String}
    (mentions : Mentions text names) (otherMentions : Mentions other others)
    (starts : ∀ rest, Delimited rest → Delimited (other.toList ++ rest)) :
    Mentions (text ++ other) (names ++ others) := by
  intro rest delimited
  rw [String.toList_append, List.append_assoc,
    mentions _ (starts rest delimited), otherMentions rest delimited,
    List.append_assoc]

/-- A quiet text that starts with a mark may follow. -/
theorem Mentions.closed {text close : String} {names : List String}
    (mentions : Mentions text names) (quiet : IsQuiet close) {mark : Char}
    {letters : List Char} (starts : close.toList = mark :: letters)
    (noName : isNameCharacter mark = false) :
    Mentions (text ++ close) names := by
  have all := mentions.append quiet.mentions fun rest _ => by
    rw [starts]
    exact .cons noName _
  rwa [List.append_nil] at all

theorem mentions_variable {name : String} (named : isGraphqlName name = true) :
    Mentions ("$" ++ name) [name] := by
  intro rest delimited
  have whole :
      (name.toList ++ rest).takeWhile isNameCharacter = name.toList := by
    rw [List.takeWhile_append_of_pos fun _ => isNameCharacter_of_mem named]
    cases rest with
    | nil => simp
    | cons letter rest => simp [delimited letter rfl]
  rw [String.toList_append, List.append_assoc]
  show variablesFrom .code ('$' :: (name.toList ++ rest)) = _
  rw [variablesFrom, if_pos rfl, whole,
    variablesFrom_quiet (IsQuiet.of_name named), String.ofList_toList]
  rfl

/-- Texts hold some variables together, each its own. -/
inductive MentionsAll : List String → List String → Prop where
  | nil : MentionsAll [] []
  | cons {text : String} {texts names others : List String} :
      Mentions text names → MentionsAll texts others →
      MentionsAll (text :: texts) (names ++ others)

/-- Commas keep the variables of texts apart. -/
theorem MentionsAll.joined {texts names : List String}
    (all : MentionsAll texts names) :
    Mentions (joined ", " texts) names := by
  have quiet : IsQuiet ", " := by simp [IsQuiet]
  induction all with
  | nil => exact fun _ _ => rfl
  | @cons text texts names others first rest induction =>
      cases rest with
      | nil =>
          rw [List.append_nil]
          exact first
      | cons second later =>
          rw [GraphPipeline.joined, String.append_assoc]
          refine first.append (quiet.before induction) fun _ _ => ?_
          rw [String.toList_append]
          exact Delimited.cons (by decide) _

/-- Texts between brackets. -/
theorem MentionsAll.between {texts names : List String}
    (all : MentionsAll texts names)
    {opening closing : String} (quiet : IsQuiet opening)
    (closes : IsQuiet closing)
    {mark : Char} (single : closing.toList = [mark])
    (noName : isNameCharacter mark = false) :
    Mentions (opening ++ GraphPipeline.joined ", " texts ++ closing) names :=
  (quiet.before all.joined).closed closes single noName

/-! ### Literals -/

/-- A reader of a text that passes over strings, each to the quote that closes
it. -/
structure ReadsStrings {α : Type} (read : TextPlace → List Char → α) :
    Prop where
  inString : ∀ character rest, read .string (character :: rest) =
    read (if character = '\\' then .escape
      else if character = '"' then .code else .string) rest
  afterEscape :
    ∀ character rest, read .escape (character :: rest) = read .string rest

namespace ReadsStrings

variable {α : Type} {read : TextPlace → List Char → α}

theorem plain (reads : ReadsStrings read) {character : Char}
    (noEscape : character ≠ '\\') (noQuote : character ≠ '"')
    (rest : List Char) :
    read .string (character :: rest) = read .string rest := by
  rw [reads.inString, if_neg noEscape, if_neg noQuote]

theorem escape (reads : ReadsStrings read) (character : Char)
    (rest : List Char) :
    read .string ('\\' :: character :: rest) = read .string rest := by
  rw [reads.inString, if_pos rfl, reads.afterEscape]

theorem digit (reads : ReadsStrings read) (number : Nat) (rest : List Char) :
    read .string (Nat.digitChar number :: rest) = read .string rest :=
  reads.plain (Nat.digitChar_ne _ (by decide)) (Nat.digitChar_ne _ (by decide))
    rest

/-- No character of a string ends it. -/
theorem escaped (reads : ReadsStrings read) (character : Char)
    (rest : List Char) :
    read .string (Json.escaped character ++ rest) = read .string rest := by
  unfold Json.escaped
  split
  · exact reads.escape _ _
  rename_i noQuote
  split
  · exact reads.escape _ _
  rename_i noEscape
  split
  · exact reads.plain noEscape noQuote rest
  (iterate 5 (split; exact reads.escape _ _))
  -- What is left is a control character, written as `u` and four digits.
  have zero : ∀ rest, read .string ('0' :: rest) = read .string rest :=
    reads.plain (by decide) (by decide)
  calc
    read .string
          ('\\' :: 'u' :: '0' :: '0' :: Json.controlDigits character ++ rest) =
        read .string ('0' :: '0' :: Json.controlDigits character ++ rest) :=
      reads.escape _ _
    _ = read .string (Json.controlDigits character ++ rest) :=
      (zero _).trans (zero _)
    _ = read .string rest := (reads.digit _ _).trans (reads.digit _ _)

/-- A string is passed over up to its closing quote. -/
theorem closed (reads : ReadsStrings read) (text : String) (rest : List Char) :
    read .string (text.toList.flatMap Json.escaped ++ '"' :: rest) =
      read .code rest := by
  induction text.toList with
  | nil =>
    rw [List.flatMap_nil, List.nil_append, reads.inString, if_neg (by decide),
      if_pos rfl]
  | cons letter letters induction =>
      rw [List.flatMap_cons, List.append_assoc, reads.escaped, induction]

end ReadsStrings

theorem readsStrings_variablesFrom : ReadsStrings variablesFrom :=
  ⟨fun _ _ => rfl, fun _ _ => rfl⟩

theorem mentions_quoted (text : String) : Mentions (Json.quoted text) [] := by
  intro rest _
  rw [Json.quoted, String.toList_ofList, List.append_assoc,
    List.singleton_append]
  exact readsStrings_variablesFrom.closed text rest

private theorem isQuiet_marks : IsQuiet "[" ∧ IsQuiet "]" ∧ IsQuiet "\x7b" ∧
    IsQuiet "\x7d" ∧ IsQuiet ": " ∧ IsQuiet "(" ∧ IsQuiet ")" := by
  simp [IsQuiet]

mutual

theorem Json.mentions (value : Json) (named : value.isNamed = true) :
    Mentions value.renderLiteral [] := by
  cases value with
  | null =>
    exact IsQuiet.mentions (by simp [IsQuiet, Json.renderLiteral, Json.render])
  | bool value =>
      cases value <;>
        exact IsQuiet.mentions
          (by simp [IsQuiet, Json.renderLiteral, Json.render])
  | number value =>
      exact (IsQuiet.of_forall (fun _ => isNumeral_of_mem_render) (by decide)
        (by decide)).mentions
  | string value => exact mentions_quoted value
  | array items =>
      exact (Json.mentionsItems items named).between isQuiet_marks.1
        isQuiet_marks.2.1 rfl (by decide)
  | object members =>
      exact (Json.mentionsMembers members named).between isQuiet_marks.2.2.1
        isQuiet_marks.2.2.2.1 rfl (by decide)

theorem Json.mentionsItems (items : List Json)
    (named : Json.isNamedItems items = true) :
    MentionsAll (Json.renderLiteralItems items) [] := by
  cases items with
  | nil => exact .nil
  | cons item items =>
      rw [Json.isNamedItems, Bool.and_eq_true] at named
      exact .cons (Json.mentions item named.1)
        (Json.mentionsItems items named.2)

theorem Json.mentionsMembers (members : List (String × Json))
    (named : Json.isNamedMembers members = true) :
    MentionsAll (Json.renderLiteralMembers members) [] := by
  cases members with
  | nil => exact .nil
  | cons member members =>
      obtain ⟨key, value⟩ := member
      rw [Json.isNamedMembers, Bool.and_eq_true, Bool.and_eq_true] at named
      have quiet := (IsQuiet.of_name named.1.1).append isQuiet_marks.2.2.2.2.1
      exact .cons (quiet.before (Json.mentions value named.1.2))
        (Json.mentionsMembers members named.2)

end

/-! ### Argument values -/

mutual

/-- The text of a value holds the variables that the value refers to. -/
theorem ArgumentValue.mentions (value : ArgumentValue)
    (named : value.isNamed = true) :
    Mentions value.render value.variableNames := by
  cases value with
  | literal value => exact Json.mentions value named
  | enumeration name => exact (IsQuiet.of_name named).mentions
  | list items =>
      rw [ArgumentValue.variableNames]
      exact (ArgumentValue.mentionsItems items named).between isQuiet_marks.1
        isQuiet_marks.2.1 rfl (by decide)
  | object fields =>
      rw [ArgumentValue.variableNames]
      exact (ArgumentValue.mentionsFields fields named).between
        isQuiet_marks.2.2.1 isQuiet_marks.2.2.2.1 rfl (by decide)
  | variableRef name =>
      rw [ArgumentValue.variableNames]
      exact mentions_variable named
  | omitted => exact IsQuiet.mentions (by simp [IsQuiet, ArgumentValue.render])

theorem ArgumentValue.mentionsItems (items : List ArgumentValue)
    (named : ArgumentValue.isNamedItems items = true) :
    MentionsAll (ArgumentValue.renderItems items)
      (ArgumentValue.variableNamesOfItems items) := by
  cases items with
  | nil => exact .nil
  | cons item items =>
      rw [ArgumentValue.isNamedItems, Bool.and_eq_true] at named
      exact .cons (ArgumentValue.mentions item named.1)
        (ArgumentValue.mentionsItems items named.2)

theorem ArgumentValue.mentionsFields (fields : List (InputField ArgumentValue))
    (named : ArgumentValue.isNamedFields fields = true) :
    MentionsAll (ArgumentValue.renderFields fields)
      (ArgumentValue.variableNamesOfFields fields) := by
  cases fields with
  | nil => exact .nil
  | cons field fields =>
      obtain ⟨name, type, value⟩ := field
      rw [ArgumentValue.isNamedFields, Bool.and_eq_true,
        Bool.and_eq_true] at named
      have others := ArgumentValue.mentionsFields fields named.2
      have quiet := (IsQuiet.of_name named.1.1).append isQuiet_marks.2.2.2.2.1
      rw [ArgumentValue.renderFields, ArgumentValue.variableNamesOfFields]
      split
      · rename_i omitted
        cases value with
        | omitted => exact others
        | _ => cases omitted
      · exact .cons (quiet.before (ArgumentValue.mentions value named.1.2))
          others

end

theorem Argument.mentionsAll {arguments : List Argument}
    (named : ∀ argument ∈ arguments, argument.isNamed = true) :
    MentionsAll (arguments.map Argument.render)
      (Argument.variableNames arguments) := by
  induction arguments with
  | nil => exact .nil
  | cons argument arguments induction =>
      obtain ⟨first, others⟩ := List.forall_mem_cons.mp named
      rw [Argument.isNamed, Bool.and_eq_true] at first
      have quiet := (IsQuiet.of_name first.1).append isQuiet_marks.2.2.2.2.1
      exact .cons (quiet.before (ArgumentValue.mentions _ first.2))
        (induction others)

/-- The signature of a field holds the variables that its arguments refer to. -/
theorem mentions_signature {name : String} {arguments : List Argument}
    (nameOf : isGraphqlName name = true)
    (named : ∀ argument ∈ arguments, argument.isNamed = true) :
    Mentions (signature name arguments) (Argument.variableNames arguments) := by
  refine (IsQuiet.of_name nameOf).before ?_
  cases arguments with
  | nil => exact fun _ _ => rfl
  | cons argument arguments =>
      rw [renderAll_cons]
      exact (Argument.mentionsAll named).between isQuiet_marks.2.2.2.2.2.1
        isQuiet_marks.2.2.2.2.2.2 rfl (by decide)

/-- Fields with one signature refer to the same variables. -/
theorem variableNames_eq_of_signature {name other : String}
    {arguments others : List Argument}
    (nameOf : isGraphqlName name = true)
    (named : ∀ argument ∈ arguments, argument.isNamed = true)
    (otherName : isGraphqlName other = true)
    (othersNamed : ∀ argument ∈ others, argument.isNamed = true)
    (same : signature name arguments = signature other others) :
    Argument.variableNames arguments = Argument.variableNames others := by
  have delimited : Delimited [] := by
    intro letter member
    cases member
  have first := mentions_signature nameOf named [] delimited
  have second := mentions_signature otherName othersNamed [] delimited
  rw [same, second] at first
  simpa [variablesFrom] using first.symm

end GraphPipeline
