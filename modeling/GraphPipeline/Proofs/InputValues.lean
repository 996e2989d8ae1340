import GraphPipeline.Proofs.DocumentTexts
import GraphPipeline.Proofs.SelectionCalls

/-!
# The values that arguments denote

Literals and argument values are two notations for the input values of the query
language. What both have in common is the text they are written as, and this
text determines the input value: a value ends where its text does, its first
character tells what kind of value it is, and the parts between brackets are cut
apart at commas.
-/

namespace GraphPipeline

/-- A value of the query language. -/
inductive InputValue where
  | null
  | bool (value : Bool)
  | number (value : Json.Number)
  | string (text : String)
  | enumeration (name : String)
  | variableRef (name : String)
  | list (items : List InputValue)
  | object (members : List (String × InputValue))

namespace Json

mutual

/-- The input value that a literal denotes. -/
def denoted : Json → InputValue
  | .null => .null
  | .bool value => .bool value
  | .number value => .number value
  | .string text => .string text
  | .array items => .list (denotedItems items)
  | .object members => .object (denotedMembers members)

def denotedItems : List Json → List InputValue
  | [] => []
  | item :: items => item.denoted :: denotedItems items

def denotedMembers : List (String × Json) → List (String × InputValue)
  | [] => []
  | (key, value) :: members => (key, value.denoted) :: denotedMembers members

end

end Json

namespace ArgumentValue

mutual

/-- The input value that an argument value denotes.  An object does not have the
fields that are omitted, and anything else that is omitted is null. -/
def denoted : ArgumentValue → InputValue
  | .literal value => value.denoted
  | .enumeration name => .enumeration name
  | .list items => .list (denotedItems items)
  | .object fields => .object (denotedFields fields)
  | .variableRef name => .variableRef name
  | .omitted => .null

def denotedItems : List ArgumentValue → List InputValue
  | [] => []
  | item :: items => item.denoted :: denotedItems items

def denotedFields : List (InputField ArgumentValue) → List (String × InputValue)
  | [] => []
  | ⟨name, _, value⟩ :: fields =>
      if value.isOmitted then denotedFields fields
      else (name, value.denoted) :: denotedFields fields

end

end ArgumentValue

/-- The name of an argument with the input value it is given. -/
def Argument.denoted (argument : Argument) : String × InputValue :=
  (argument.name, argument.value.denoted)

namespace InputValue

mutual

def render : InputValue → String
  | .null => "null"
  | .bool value => if value then "true" else "false"
  | .number value => value.render
  | .string text => Json.quoted text
  | .enumeration name => name
  | .variableRef name => "$" ++ name
  | .list items => "[" ++ joined ", " (renderItems items) ++ "]"
  | .object members => "\x7b" ++ joined ", " (renderMembers members) ++ "\x7d"

def renderItems : List InputValue → List String
  | [] => []
  | item :: items => item.render :: renderItems items

def renderMembers : List (String × InputValue) → List String
  | [] => []
  | (name, value) :: members =>
    (name ++ ": " ++ value.render) :: renderMembers members

end

/-- A member of an object, or an argument, as it is written. -/
def renderMember (member : String × InputValue) : String :=
  member.1 ++ ": " ++ member.2.render

theorem renderItems_eq_map (items : List InputValue) :
    renderItems items = items.map render := by
  induction items with
  | nil => rfl
  | cons item items induction => rw [renderItems, induction, List.map_cons]

theorem renderMembers_eq_map (members : List (String × InputValue)) :
    renderMembers members = members.map renderMember := by
  induction members with
  | nil => rfl
  | cons member members induction =>
    rw [renderMembers, induction, List.map_cons, renderMember]

end InputValue

/-! ### The text of a value is that of what it denotes -/

mutual

theorem Json.renderLiteral_eq (value : Json) :
    value.renderLiteral = value.denoted.render := by
  cases value with
  | array items =>
      rw [Json.renderLiteral, Json.renderLiteralItems_eq items, Json.denoted,
        InputValue.render]
  | object members =>
      rw [Json.renderLiteral, Json.renderLiteralMembers_eq members,
        Json.denoted, InputValue.render]
  | null => rfl
  | bool value => rfl
  | number value => rfl
  | string text => rfl

theorem Json.renderLiteralItems_eq (items : List Json) :
    Json.renderLiteralItems items =
      InputValue.renderItems (Json.denotedItems items) := by
  cases items with
  | nil => rfl
  | cons item items =>
      rw [Json.renderLiteralItems, Json.denotedItems, InputValue.renderItems,
        Json.renderLiteral_eq item, Json.renderLiteralItems_eq items]

theorem Json.renderLiteralMembers_eq (members : List (String × Json)) :
    Json.renderLiteralMembers members =
      InputValue.renderMembers (Json.denotedMembers members) := by
  cases members with
  | nil => rfl
  | cons member members =>
      rw [Json.renderLiteralMembers, Json.denotedMembers,
        InputValue.renderMembers, Json.renderLiteral_eq member.2,
        Json.renderLiteralMembers_eq members]

end

mutual

theorem ArgumentValue.render_eq (value : ArgumentValue) :
    value.render = value.denoted.render := by
  cases value with
  | literal value => exact Json.renderLiteral_eq value
  | enumeration name => rfl
  | list items =>
      rw [ArgumentValue.render, ArgumentValue.renderItems_eq items,
        ArgumentValue.denoted, InputValue.render]
  | object fields =>
      rw [ArgumentValue.render, ArgumentValue.renderFields_eq fields,
        ArgumentValue.denoted, InputValue.render]
  | variableRef name => rfl
  | omitted => rfl

theorem ArgumentValue.renderItems_eq (items : List ArgumentValue) :
    ArgumentValue.renderItems items =
      InputValue.renderItems (ArgumentValue.denotedItems items) := by
  cases items with
  | nil => rfl
  | cons item items =>
      rw [ArgumentValue.renderItems, ArgumentValue.denotedItems,
        InputValue.renderItems, ArgumentValue.render_eq item,
        ArgumentValue.renderItems_eq items]

theorem ArgumentValue.renderFields_eq
    (fields : List (InputField ArgumentValue)) :
    ArgumentValue.renderFields fields =
      InputValue.renderMembers (ArgumentValue.denotedFields fields) := by
  cases fields with
  | nil => rfl
  | cons field fields =>
      obtain ⟨name, type, value⟩ := field
      rw [ArgumentValue.renderFields, ArgumentValue.denotedFields,
        ArgumentValue.renderFields_eq fields, ArgumentValue.render_eq value]
      split <;> rfl

end

theorem Argument.render_eq (argument : Argument) :
    argument.render = InputValue.renderMember argument.denoted := by
  rw [Argument.render, ArgumentValue.render_eq]
  rfl

/-! ### Strings -/

/-- The character that the text of a string starts with, and the text after
it. -/
def unescaped? : List Char → Option (Char × List Char)
  | '\\' :: 'u' :: first :: second :: third :: fourth :: rest =>
      (Json.Raw.hexCode? first second third fourth).map
        fun code => (Char.ofNat code, rest)
  | '\\' :: 'n' :: rest => some ('\n', rest)
  | '\\' :: 't' :: rest => some ('\t', rest)
  | '\\' :: 'r' :: rest => some ('\r', rest)
  | '\\' :: 'b' :: rest => some (Char.ofNat 8, rest)
  | '\\' :: 'f' :: rest => some (Char.ofNat 12, rest)
  | '\\' :: letter :: rest => some (letter, rest)
  | '"' :: _ => none
  | letter :: rest => some (letter, rest)
  | [] => none

theorem unescaped?_control {number : Nat} (control : number < 32)
    (rest : List Char) :
    unescaped? (Json.escaped (Char.ofNat number) ++ rest) =
      some (Char.ofNat number, rest) := by
  interval_cases number <;> rfl

theorem unescaped?_escaped (letter : Char) (rest : List Char) :
    unescaped? (Json.escaped letter ++ rest) = some (letter, rest) := by
  by_cases control : letter.toNat < 32
  · rw [← Char.ofNat_toNat letter]
    exact unescaped?_control control rest
  · have printed : ' ' ≤ letter := Nat.le_of_not_lt control
    by_cases quote : letter = '"'
    · rw [quote]
      rfl
    · by_cases backslash : letter = '\\'
      · rw [backslash]
        rfl
      · rw [Json.escaped, if_neg quote, if_neg backslash, if_pos printed,
          List.singleton_append, unescaped?.eq_def]
        split <;> simp_all

/-- Up to the closing quote there is one character after the other to be
read. -/
theorem unescaped?_string (letters rest : List Char) :
    unescaped? (letters.flatMap Json.escaped ++ '"' :: rest) =
      letters.head?.map
        (·, letters.tail.flatMap Json.escaped ++ '"' :: rest) := by
  cases letters with
  | nil => rfl
  | cons letter letters =>
      rw [List.flatMap_cons, List.append_assoc, unescaped?_escaped]
      rfl

/-- Strings can be told apart by their texts, whatever follows the closing
quote. -/
theorem escaped_cut {letters others rest rests : List Char}
    (same : letters.flatMap Json.escaped ++ '"' :: rest =
      others.flatMap Json.escaped ++ '"' :: rests) :
    letters = others ∧ rest = rests := by
  induction letters generalizing others with
  | nil =>
      have read := congrArg unescaped? same
      rw [unescaped?_string, unescaped?_string] at read
      cases others with
      | nil => exact ⟨rfl, (List.cons.inj same).2⟩
      | cons other others => cases read
  | cons letter letters induction =>
      have read := congrArg unescaped? same
      rw [unescaped?_string, unescaped?_string] at read
      cases others with
      | nil => cases read
      | cons other others =>
          obtain ⟨sameLetter, sameTail⟩ := Prod.mk.inj (Option.some.inj read)
          obtain ⟨sameLetters, sameRest⟩ := induction sameTail
          exact ⟨congrArg₂ List.cons sameLetter sameLetters, sameRest⟩

theorem quoted_cut {text other : String} {rest rests : List Char}
    (same :
      (Json.quoted text).toList ++ rest = (Json.quoted other).toList ++ rests) :
    text = other ∧ rest = rests := by
  simp only [Json.quoted, String.toList_ofList, List.cons_append,
    List.append_assoc, List.nil_append, List.cons.injEq, true_and] at same
  obtain ⟨sameLetters, sameRest⟩ := escaped_cut same
  exact ⟨String.ext sameLetters, sameRest⟩

/-! ### Values that can be read back -/

/-- Whether a text starts as the numbers of the query language do. -/
def startsNumber (text : String) : Bool :=
  text.toList.head?.any fun letter => letter.isDigit || letter == '-'

/-- Numbers that are written alike are the same number. -/
def PrintApart (numbers others : List Json.Number) : Prop :=
  ∀ number ∈ numbers, ∀ other ∈ others,
    number.render = other.render → number = other

instance (numbers others : List Json.Number) :
    Decidable (PrintApart numbers others) :=
  inferInstanceAs (Decidable (∀ number ∈ numbers, ∀ other ∈ others, _))

theorem PrintApart.of_flatMap {α : Type} {parts : α → List Json.Number}
    {items others : List α}
    (apart : PrintApart (items.flatMap parts) (others.flatMap parts))
    {item other : α}
    (member : item ∈ items) (otherMember : other ∈ others) :
    PrintApart (parts item) (parts other) := by
  intro number inside found otherInside
  exact apart number (List.mem_flatMap_of_mem member inside) found
    (List.mem_flatMap_of_mem otherMember otherInside)

namespace InputValue

/-- The values that are written as names and are no enumeration values. -/
def keywords : List String :=
  ["null", "true", "false"]

mutual

/-- Whether all that is written without quotes in a value is what it should be:
names of the query language, none of them a keyword if it stands for an
enumeration value, and numbers. -/
def isReadable : InputValue → Bool
  | .null => true
  | .bool _ => true
  | .number value => startsNumber value.render
  | .string _ => true
  | .enumeration name => isGraphqlName name && !keywords.contains name
  | .variableRef name => isGraphqlName name
  | .list items => isReadableItems items
  | .object members => isReadableMembers members

def isReadableItems : List InputValue → Bool
  | [] => true
  | item :: items => item.isReadable && isReadableItems items

def isReadableMembers : List (String × InputValue) → Bool
  | [] => true
  | (name, value) :: members =>
      isGraphqlName name && value.isReadable && isReadableMembers members

end

mutual

/-- The numbers in a value. -/
def numbers : InputValue → List Json.Number
  | .number value => [value]
  | .list items => numbersOfItems items
  | .object members => numbersOfMembers members
  | .null => []
  | .bool _ => []
  | .string _ => []
  | .enumeration _ => []
  | .variableRef _ => []

def numbersOfItems : List InputValue → List Json.Number
  | [] => []
  | item :: items => item.numbers ++ numbersOfItems items

def numbersOfMembers : List (String × InputValue) → List Json.Number
  | [] => []
  | (_, value) :: members => value.numbers ++ numbersOfMembers members

end

theorem isReadableItems_iff {items : List InputValue} :
    isReadableItems items = true ↔ ∀ item ∈ items, item.isReadable = true := by
  induction items with
  | nil => simp [isReadableItems]
  | cons item items induction => simp [isReadableItems, induction]

theorem isReadableMembers_iff {members : List (String × InputValue)} :
    isReadableMembers members = true ↔
      ∀ member ∈ members,
        isGraphqlName member.1 = true ∧ member.2.isReadable = true := by
  induction members with
  | nil => simp [isReadableMembers]
  | cons member members induction => simp [isReadableMembers, induction]

theorem numbersOfItems_eq (items : List InputValue) :
    numbersOfItems items = items.flatMap numbers := by
  induction items with
  | nil => rfl
  | cons item items induction =>
    rw [numbersOfItems, induction, List.flatMap_cons]

theorem numbersOfMembers_eq (members : List (String × InputValue)) :
    numbersOfMembers members = members.flatMap (·.2.numbers) := by
  induction members with
  | nil => rfl
  | cons member members induction =>
    rw [numbersOfMembers, induction, List.flatMap_cons]

/-- Two values can be read back, and their numbers told apart. -/
structure Comparable (value other : InputValue) : Prop where
  readable : value.isReadable = true
  otherReadable : other.isReadable = true
  apart : PrintApart value.numbers other.numbers

/-! ### The first character of a value -/

/-- What the first character of a text says about a value: values that are
written as names are words, and no value starts with a mark. -/
inductive Kind where
  | word
  | number
  | string
  | variableRef
  | list
  | object
  | mark
  deriving DecidableEq

def kind : InputValue → Kind
  | .null => .word
  | .bool _ => .word
  | .enumeration _ => .word
  | .number _ => .number
  | .string _ => .string
  | .variableRef _ => .variableRef
  | .list _ => .list
  | .object _ => .object

theorem kind_ne_mark (value : InputValue) : value.kind ≠ .mark := by
  cases value <;> exact nofun

def kindOf (letter : Char) : Kind :=
  if isNameStart letter then .word
  else if letter.isDigit || letter == '-' then .number
  else if letter = '"' then .string
  else if letter = '$' then .variableRef
  else if letter = '[' then .list
  else if letter = '\x7b' then .object
  else .mark

/-- A text that starts as values of some kind do. -/
def Opens (text : String) (kind : Kind) : Prop :=
  ∃ letter letters, text.toList = letter :: letters ∧ kindOf letter = kind

theorem opens_of_name {name : String} (named : isGraphqlName name = true) :
    Opens name .word := by
  unfold isGraphqlName at named
  cases letters : name.toList with
  | nil => simp [letters] at named
  | cons first rest =>
      rw [letters, Bool.and_eq_true] at named
      exact ⟨first, rest, letters, by rw [kindOf, if_pos named.1]⟩

theorem isNameStart_of_isDigit {letter : Char} (digit : letter.isDigit = true) :
    isNameStart letter = false := by
  have bounds : 48 ≤ letter.toNat ∧ letter.toNat ≤ 57 :=
    Char.isDigit_iff_toNat.mp digit
  have noLetter : letter.isAlpha = false := by
    simp [Char.isAlpha, Char.isUpper, Char.isLower, UInt32.le_iff_toNat_le]
    omega
  have noUnderscore : letter ≠ '_' := by
    rintro rfl
    cases digit
  rw [isNameStart, noLetter, beq_false_of_ne noUnderscore]
  rfl

theorem opens_of_number {text : String} (starts : startsNumber text = true) :
    Opens text .number := by
  unfold startsNumber at starts
  cases letters : text.toList with
  | nil => simp [letters] at starts
  | cons first rest =>
      rw [letters] at starts
      have numeral : (first.isDigit || first == '-') = true := starts
      have noName : isNameStart first = false := by
        rcases (Bool.or_eq_true _ _).mp numeral with digit | minus
        · exact isNameStart_of_isDigit digit
        · rw [beq_iff_eq.mp minus]
          decide
      exact ⟨first, rest, letters,
        by rw [kindOf, noName, if_neg (by decide), if_pos numeral]⟩

/-- Values that are written as names. -/
theorem isGraphqlName_render {value : InputValue}
    (readable : value.isReadable = true) (word : value.kind = .word) :
    isGraphqlName value.render = true := by
  cases value with
  | null => decide
  | bool value => cases value <;> decide
  | enumeration name =>
      rw [isReadable, Bool.and_eq_true] at readable
      exact readable.1
  | _ => cases word

theorem opens_render {value : InputValue} (readable : value.isReadable = true) :
    Opens value.render value.kind := by
  cases value with
  | null => exact opens_of_name (isGraphqlName_render readable rfl)
  | bool value => exact opens_of_name (isGraphqlName_render readable rfl)
  | enumeration name => exact opens_of_name (isGraphqlName_render readable rfl)
  | number value => exact opens_of_number readable
  | string text =>
    exact ⟨'"', _, by rw [render, Json.quoted, String.toList_ofList]; rfl, rfl⟩
  | variableRef name =>
    exact ⟨'$', _, by rw [render, String.toList_append]; rfl, rfl⟩
  | list items =>
      exact ⟨'[', _,
        by rw [render, String.toList_append, String.toList_append]; rfl, rfl⟩
  | object members =>
      exact ⟨'\x7b', _,
        by rw [render, String.toList_append, String.toList_append]; rfl, rfl⟩

theorem Opens.kind_eq {text : String} {kind : Kind} (opens : Opens text kind)
    {rest letters : List Char} {letter : Char}
    (same : text.toList ++ rest = letter :: letters) :
    kind = kindOf letter := by
  obtain ⟨first, others, isText, rfl⟩ := opens
  rw [isText] at same
  rw [(List.cons.inj same).1]

/-- Texts that start alike start as values of one kind. -/
theorem Opens.unique {text other : String} {kind otherKind : Kind}
    (opens : Opens text kind) (otherOpens : Opens other otherKind)
    {rest rests : List Char}
    (same : text.toList ++ rest = other.toList ++ rests) :
    kind = otherKind := by
  obtain ⟨letter, letters, isOther, rfl⟩ := otherOpens
  rw [isOther] at same
  exact opens.kind_eq same

/-! ### Where a value ends -/

/-- What may follow a value: nothing, a comma or a closing bracket. -/
def EndsInput (rest : List Char) : Prop :=
  ∀ letter ∈ rest.head?, letter ∈ [',', ']', '\x7d', ')']

theorem EndsInput.cons {mark : Char} (known : mark ∈ [',', ']', '\x7d', ')'])
    (rest : List Char) : EndsInput (mark :: rest) := by
  rintro letter ⟨⟩
  exact known

theorem EndsInput.nil : EndsInput [] := by
  intro letter member
  cases member

/-- No kind of characters that leaves the marks out goes on after a value. -/
theorem EndsInput.stops {rest : List Char} (ends : EndsInput rest)
    {holds : Char → Bool}
    (excludes : [',', ']', '\x7d', ')'].all (fun mark => !holds mark) = true) :
    ∀ letter ∈ rest.head?, holds letter = false := by
  intro letter member
  simpa using List.all_eq_true.mp excludes letter (ends letter member)

theorem EndsInput.delimited {rest : List Char} (ends : EndsInput rest) :
    Delimited rest :=
  ends.stops (by decide)

/-- A list that is not empty starts as its first item does, and so with no
closing bracket. -/
theorem joined_ne_closing {α : Type} {render : α → String} {mark : Char}
    (closes : kindOf mark = .mark) {item : α} (items : List α)
    (opens : ∃ kind ≠ .mark, Opens (render item) kind)
    (rest rests : List Char) :
    (joined ", " ((item :: items).map render)).toList ++ rest ≠
      mark :: rests := by
  intro same
  obtain ⟨kind, noMark, isOpen⟩ := opens
  cases items with
  | nil => exact noMark ((isOpen.kind_eq same).trans closes)
  | cons next items =>
      rw [List.map_cons, List.map_cons, joined, String.toList_append,
        String.toList_append, List.append_assoc, List.append_assoc] at same
      exact noMark ((isOpen.kind_eq same).trans closes)

/-- Values written between commas up to a closing bracket are cut apart if each
can be cut from what follows it, and if none of them starts with a bracket that
closes. -/
theorem enclosed_cut {α : Type} {render : α → String} {mark : Char}
    (known : mark ∈ [']', '\x7d', ')']) {items others : List α}
    (cut :
      ∀ item ∈ items, ∀ other ∈ others, ∀ {rest rests : List Char},
        EndsInput rest →
        EndsInput rests →
          (render item).toList ++ rest = (render other).toList ++ rests →
          item = other ∧ rest = rests)
    (opens : ∀ item ∈ items, ∃ kind ≠ .mark, Opens (render item) kind)
    (otherOpens : ∀ other ∈ others, ∃ kind ≠ .mark, Opens (render other) kind)
    {rest rests : List Char}
    (same : (joined ", " (items.map render)).toList ++ mark :: rest =
      (joined ", " (others.map render)).toList ++ mark :: rests) :
    items = others ∧ rest = rests := by
  have closes : kindOf mark = .mark := by
    simp only [List.mem_cons, List.not_mem_nil, or_false] at known
    rcases known with rfl | rfl | rfl <;> decide
  cases items with
  | nil =>
      cases others with
      | nil => exact ⟨rfl, (List.cons.inj same).2⟩
      | cons other others =>
          exact absurd same.symm
            (joined_ne_closing closes others
              (otherOpens other List.mem_cons_self) _ _)
  | cons item items =>
      cases others with
      | nil =>
          exact absurd same
            (joined_ne_closing closes items (opens item List.mem_cons_self) _ _)
      | cons other others =>
          have isMark : mark ∈ [',', ']', '\x7d', ')'] :=
            List.mem_cons_of_mem _ known
          have noComma : mark ≠ ',' := by
            rintro rfl
            revert known
            decide
          have both :
              (item :: items).map id = (other :: others).map id ∧
                rest = rests :=
            joined_cut (EndsInput.cons List.mem_cons_self)
              (EndsInput.cons isMark) noComma cut (List.cons_ne_nil _ _)
              (List.cons_ne_nil _ _) same
          rwa [List.map_id, List.map_id] at both

/-- An enumeration value is written as no keyword. -/
theorem enumeration_ne {name : String}
    (readable : (enumeration name).isReadable = true)
    {keyword : String} (known : keyword ∈ keywords) : name ≠ keyword := by
  rintro rfl
  rw [isReadable, List.contains_iff_mem.mpr known] at readable
  simp at readable

/-- Values that are written as names are the same if their names are. -/
theorem word_injective {value other : InputValue}
    (readable : value.isReadable = true)
    (otherReadable : other.isReadable = true) (word : value.kind = .word)
    (otherWord : other.kind = .word) (same : value.render = other.render) :
    value = other := by
  have ofBool : ∀ value, (bool value).render ∈ keywords := by decide
  have null_ne : ∀ value, (bool value).render ≠ "null" := by decide
  have bools :
      ∀ value other,
        (bool value).render = (bool other).render → value = other := by
    decide
  cases value with
  | null =>
      cases other with
      | null => rfl
      | bool other => exact absurd same.symm (null_ne other)
      | enumeration name =>
        exact absurd same.symm (enumeration_ne otherReadable (by decide))
      | _ => cases otherWord
  | bool value =>
      cases other with
      | null => exact absurd same (null_ne value)
      | bool other => rw [bools value other same]
      | enumeration name =>
          exact absurd same.symm (enumeration_ne otherReadable (ofBool value))
      | _ => cases otherWord
  | enumeration name =>
      cases other with
      | null => exact absurd same (enumeration_ne readable (by decide))
      | bool other => exact absurd same (enumeration_ne readable (ofBool other))
      | enumeration other => exact congrArg enumeration same
      | _ => cases otherWord
  | _ => cases word

/-- Two values can be told apart by their texts, whatever follows them. -/
def Cut (value other : InputValue) : Prop :=
  value.Comparable other →
    ∀ {rest rests : List Char}, EndsInput rest → EndsInput rests →
    value.render.toList ++ rest = other.render.toList ++ rests →
      value = other ∧ rest = rests

/-- Members of objects, or arguments, that can be told apart by their texts. -/
theorem Cut.member {member other : String × InputValue}
    (cut : member.2.Cut other.2) (named : isGraphqlName member.1 = true)
    (otherNamed : isGraphqlName other.1 = true)
    (comparable : member.2.Comparable other.2) {rest rests : List Char}
    (ends : EndsInput rest) (otherEnds : EndsInput rests)
    (same :
      (renderMember member).toList ++ rest =
        (renderMember other).toList ++ rests) :
    member = other ∧ rest = rests := by
  simp only [renderMember, String.toList_append, String.reduceToList,
    List.append_assoc, List.cons_append, List.nil_append] at same
  obtain ⟨sameName, sameTail⟩ := name_cut named otherNamed (.cons (by decide) _)
    (.cons (by decide) _) same
  obtain ⟨sameValue, sameRest⟩ := cut comparable ends otherEnds
    (List.cons.inj (List.cons.inj sameTail).2).2
  exact ⟨Prod.ext sameName sameValue, sameRest⟩

theorem items_cut_of {items others : List InputValue}
    (cut : ∀ item ∈ items, ∀ other, item.Cut other)
    (readable : isReadableItems items = true)
    (otherReadable : isReadableItems others = true)
    (apart : PrintApart (numbersOfItems items) (numbersOfItems others))
    {rest rests : List Char}
    (same : (joined ", " (renderItems items)).toList ++ ']' :: rest =
      (joined ", " (renderItems others)).toList ++ ']' :: rests) :
    items = others ∧ rest = rests := by
  rw [isReadableItems_iff] at readable otherReadable
  rw [numbersOfItems_eq, numbersOfItems_eq] at apart
  rw [renderItems_eq_map, renderItems_eq_map] at same
  have opens :
      ∀ {items : List InputValue}, (∀ item ∈ items, item.isReadable = true) →
        ∀ item ∈ items, ∃ kind ≠ .mark, Opens item.render kind :=
    fun readable item member =>
      ⟨item.kind, item.kind_ne_mark, opens_render (readable item member)⟩
  refine enclosed_cut (by decide) ?_ (opens readable) (opens otherReadable) same
  intro item member other otherMember
  exact cut item member other
    ⟨readable item member, otherReadable other otherMember,
     apart.of_flatMap member otherMember⟩

theorem members_cut_of {mark : Char} (known : mark ∈ [']', '\x7d', ')'])
    {members others : List (String × InputValue)}
    (cut : ∀ member ∈ members, ∀ other, member.2.Cut other)
    (readable : isReadableMembers members = true)
    (otherReadable : isReadableMembers others = true)
    (apart : PrintApart (numbersOfMembers members) (numbersOfMembers others))
    {rest rests : List Char}
    (same : (joined ", " (renderMembers members)).toList ++ mark :: rest =
      (joined ", " (renderMembers others)).toList ++ mark :: rests) :
    members = others ∧ rest = rests := by
  rw [isReadableMembers_iff] at readable otherReadable
  rw [numbersOfMembers_eq, numbersOfMembers_eq] at apart
  rw [renderMembers_eq_map, renderMembers_eq_map] at same
  have opens : ∀ {members : List (String × InputValue)},
      (∀ member ∈ members,
        isGraphqlName member.1 = true ∧ member.2.isReadable = true) →
        ∀ member ∈ members, ∃ kind ≠ .mark,
          Opens (renderMember member) kind := by
    intro members readable member inside
    obtain ⟨letter, letters, isName, isKind⟩ :=
      opens_of_name (readable member inside).1
    refine ⟨.word, by decide, letter,
      letters ++ (": " ++ member.2.render).toList, ?_, isKind⟩
    rw [renderMember, String.append_assoc, String.toList_append, isName,
      List.cons_append]
  refine enclosed_cut known ?_ (opens readable) (opens otherReadable) same
  intro member inside other otherInside rest rests
  obtain ⟨named, isReadable⟩ := readable member inside
  obtain ⟨otherNamed, otherIsReadable⟩ := otherReadable other otherInside
  have comparable : member.2.Comparable other.2 :=
    ⟨isReadable, otherIsReadable, apart.of_flatMap inside otherInside⟩
  exact (cut member inside other.2).member named otherNamed comparable

mutual

/-- The text of a value determines the value, whatever follows. -/
theorem render_cut (value other : InputValue) : value.Cut other := by
  rintro ⟨readable, otherReadable, apart⟩ rest rests ends otherEnds same
  have sameKind :=
    (opens_render readable).unique (opens_render otherReadable) same
  by_cases word : value.kind = .word
  · have otherWord := sameKind.symm.trans word
    obtain ⟨sameText, sameRest⟩ := name_cut (isGraphqlName_render readable word)
      (isGraphqlName_render otherReadable otherWord) ends.delimited
        otherEnds.delimited same
    exact ⟨word_injective readable otherReadable word otherWord sameText,
      sameRest⟩
  · cases value with
    | number value =>
        cases other with
        | number other =>
            obtain ⟨sameText, sameRest⟩ :=
              cut_after (fun _ => isNumeral_of_mem_render)
                (fun _ => isNumeral_of_mem_render) (ends.stops (by decide))
                (otherEnds.stops (by decide)) same
            have sameNumber :=
              apart value (by simp [numbers]) other (by simp [numbers])
                (String.ext sameText)
            exact ⟨congrArg number sameNumber, sameRest⟩
        | _ => cases sameKind
    | string text =>
        cases other with
        | string other =>
            obtain ⟨sameText, sameRest⟩ := quoted_cut same
            exact ⟨congrArg string sameText, sameRest⟩
        | _ => cases sameKind
    | variableRef name =>
        cases other with
        | variableRef other =>
            simp only [render, String.toList_append, String.reduceToList,
              List.cons_append, List.nil_append] at same
            obtain ⟨sameName, sameRest⟩ :=
              name_cut readable otherReadable ends.delimited otherEnds.delimited
                (List.cons.inj same).2
            exact ⟨congrArg variableRef sameName, sameRest⟩
        | _ => cases sameKind
    | list items =>
        cases other with
        | list others =>
            simp only [render, String.toList_append, String.reduceToList,
              List.append_assoc, List.cons_append, List.nil_append] at same
            obtain ⟨sameItems, sameRest⟩ :=
              items_cut_of (items_cut items) readable otherReadable apart
                (List.cons.inj same).2
            exact ⟨congrArg list sameItems, sameRest⟩
        | _ => cases sameKind
    | object members =>
        cases other with
        | object others =>
            simp only [render, String.toList_append, String.reduceToList,
              List.append_assoc, List.cons_append, List.nil_append] at same
            obtain ⟨sameMembers, sameRest⟩ :=
              members_cut_of (by decide) (members_cut members) readable
                otherReadable apart (List.cons.inj same).2
            exact ⟨congrArg object sameMembers, sameRest⟩
        | _ => cases sameKind
    | _ => exact absurd rfl word
termination_by structural value

theorem items_cut (items : List InputValue) :
    ∀ item ∈ items, ∀ other, item.Cut other := by
  cases items with
  | nil => exact fun item member => absurd member List.not_mem_nil
  | cons item items =>
      intro found member other
      rcases List.mem_cons.mp member with same | later
      · rw [same]
        exact render_cut item other
      · exact items_cut items found later other
termination_by structural items

theorem members_cut (members : List (String × InputValue)) :
    ∀ member ∈ members, ∀ other, member.2.Cut other := by
  cases members with
  | nil => exact fun member inside => absurd inside List.not_mem_nil
  | cons member members =>
      obtain ⟨name, value⟩ := member
      intro found inside other
      rcases List.mem_cons.mp inside with same | later
      · rw [same]
        exact render_cut value other
      · exact members_cut members found later other
termination_by structural members

end

end InputValue

/-! ### Arguments -/

/-- The arguments of a call as the members of one object. -/
def Argument.denotedAll (arguments : List Argument) : InputValue :=
  .object (arguments.map Argument.denoted)

/-- The arguments of a call are determined by their text. -/
theorem Argument.denotedAll_eq {arguments others : List Argument}
    (comparable : (denotedAll arguments).Comparable (denotedAll others))
    (same : renderAll arguments = renderAll others) :
    denotedAll arguments = denotedAll others := by
  have members : ∀ arguments : List Argument, arguments.map Argument.render =
      InputValue.renderMembers (arguments.map Argument.denoted) := by
    intro arguments
    rw [InputValue.renderMembers_eq_map, List.map_map]
    exact List.map_congr_left fun argument _ => argument.render_eq
  have letters := congrArg String.toList same
  cases arguments with
  | nil =>
      cases others with
      | nil => rfl
      | cons other others => simp [renderAll_nil, renderAll_cons] at letters
  | cons argument arguments =>
      cases others with
      | nil => simp [renderAll_nil, renderAll_cons] at letters
      | cons other others =>
          rw [renderAll_cons, renderAll_cons, members, members] at letters
          simp only [String.toList_append, String.reduceToList,
            List.cons_append, List.nil_append] at letters
          exact congrArg InputValue.object
            (InputValue.members_cut_of (by decide) (InputValue.members_cut _)
              comparable.readable comparable.otherReadable comparable.apart
              (List.cons.inj letters).2).1

/-- Calls on the objects at one path share a key only if they ask for one field,
and with arguments that denote the same values. -/
def Selections.MergesAlike (calls : List Call) : Prop :=
  ∀ {path : List String} {parent other : SetId}
      {definition found : FieldDefinition} {arguments others : List Argument}
      {selected known : SelectedField}, LeadsTo calls path parent →
    LeadsTo calls path other →
      .field parent definition arguments selected ∈ calls →
        .field other found others known ∈ calls → selected.key = known.key →
          (Argument.denotedAll arguments).Comparable
            (Argument.denotedAll others) →
            definition.name = found.name ∧
              Argument.denotedAll arguments = Argument.denotedAll others

/-- Argument values that are written alike denote one input value, as long as
the names in them are names of the query language and different numbers are
written differently.  Calls are merged only if they ask for the same thing. -/
theorem denoted_of_text :
    (∀ {value other : ArgumentValue}, value.denoted.Comparable other.denoted →
      value.render = other.render → value.denoted = other.denoted) ∧
    ∀ {calls : List Selections.Call} {selections : Selections},
      Selections.Made calls selections → Selections.MergesAlike calls := by
  constructor
  · intro value other comparable same
    rw [value.render_eq, other.render_eq] at same
    have letters := congrArg (fun text => text.toList ++ []) same
    exact (InputValue.render_cut _ _ comparable .nil .nil letters).1
  · intro calls selections made path parent other definition found arguments
      others selected known leads otherLeads member otherMember sameKey
      comparable
    have remembers := made.remembers
    obtain ⟨sameName, sameText⟩ :=
      signature_injective (remembers.fields member).1
        (remembers.fields otherMember).1
        ((remembers.key_eq_iff leads otherLeads member otherMember).mp sameKey)
    exact ⟨sameName, Argument.denotedAll_eq comparable sameText⟩

namespace Sample

open Selections

/-- A title and none, as a literal. -/
def writtenTitles : ArgumentValue :=
  .literal (.array [.string "a", .null])

/-- The same titles, the second of which is omitted. -/
def optionalTitles : ArgumentValue :=
  .list [.literal (.string "a"), .omitted]

def titledItem (selections : Selections) (titles : ArgumentValue) :
    Selections :=
  afterField selections rootId titledAmong [⟨"titles", titles⟩]

/-- Two calls for the same titles in two notations. -/
def titledCalls : List Call :=
  [.field rootId titledAmong [⟨"titles", writtenTitles⟩] ⟨"titled", some 1⟩,
    .field rootId titledAmong [⟨"titles", optionalTitles⟩] ⟨"titled", some 1⟩]

theorem titledCalls_made :
    Made titledCalls
      (titledItem (titledItem initial writtenTitles) optionalTitles) := by
  have once : Made ([] ++ [.field rootId titledAmong [⟨"titles", writtenTitles⟩]
      ⟨"titled", some 1⟩]) (titledItem initial writtenTitles) :=
    .field .fresh .root (by decide) (by rfl)
  exact .field once .root (by decide) (by rfl)

/-- The number one, which is printed with a fraction. -/
def floatOne : Json :=
  .number (.float ⟨false, ⟨1023, by decide⟩, ⟨0, by decide⟩⟩)

/-- Numbers of both kinds between two names, as a literal. -/
def literalNumbers : ArgumentValue :=
  .object [⟨"low", .scalar .int, .literal (.number (.integer (-3)))⟩,
    ⟨"absent", .scalar .int, .omitted⟩,
    ⟨"high", .scalar .float, .list [.literal floatOne]⟩]

def plainNumbers : ArgumentValue :=
  .literal (.object [("low", .number (.integer (-3))),
    ("high", .array [floatOne])])

end Sample

theorem numbers_denote_alike :
    Sample.literalNumbers.render = "\x7blow: -3, high: [1.0]\x7d" ∧
      Sample.literalNumbers.denoted = Sample.plainNumbers.denoted ∧
        Argument.denotedAll [⟨"titles", Sample.writtenTitles⟩] =
          Argument.denotedAll [⟨"titles", Sample.optionalTitles⟩] := by
  refine ⟨by decide +kernel, ?_, ?_⟩
  · exact denoted_of_text.1
      ⟨by decide +kernel, by decide +kernel, by decide +kernel⟩
      (by decide +kernel)
  · exact (denoted_of_text.2 Sample.titledCalls_made .root .root (.head _)
      (.tail _ (.head _)) rfl
      ⟨by decide +kernel, by decide +kernel, by decide +kernel⟩).2

end GraphPipeline
