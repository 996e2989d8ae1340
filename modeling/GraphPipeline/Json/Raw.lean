import GraphPipeline.Text.Utf8

/-!
# The lexical structure of JSON text

A text is first read into a tree of its lexemes.  Numbers keep their digits and
strings their escapes, an object keeps every member, and malformed bytes are
admitted inside strings.  What a lexeme means is decided by the readers, which
look only at the parts they need: so a part nobody asks for cannot make a text
unreadable by its value, only by its form.
-/

namespace GraphPipeline.Json

/-- Characters of a text, a malformed byte being `none`. -/
abbrev Units := List (Option Char)

/-- The digits of a number: `fraction` follows the point, `power` the exponent
mark, with a flag for its minus sign. -/
structure NumberLexeme where
  negative : Bool
  whole : List Char
  fraction : Option (List Char)
  power : Option (Bool × List Char)
  deriving DecidableEq

inductive Raw where
  | null
  | bool (value : Bool)
  | number (lexeme : NumberLexeme)
  | string (body : Units)
  | array (items : List Raw)
  | object (members : List (Units × Raw))
  deriving Inhabited

namespace Raw

/-- The rest of a text after the blanks that separate lexemes. -/
def skipBlanks : Units → Units
  | some ' ' :: rest => skipBlanks rest
  | some '\n' :: rest => skipBlanks rest
  | some '\t' :: rest => skipBlanks rest
  | some '\r' :: rest => skipBlanks rest
  | text => text

/-- The rest of a text after a fixed word. -/
def word? : List Char → Units → Option Units
  | [], text => some text
  | expected :: word, some character :: rest =>
      if character = expected then word? word rest else none
  | _ :: _, _ => none

def hexDigit? : Option Char → Option Nat
  | some digit =>
      if '0' ≤ digit && digit ≤ '9' then some (digit.toNat - '0'.toNat)
      else if 'a' ≤ digit && digit ≤ 'f' then
        some (digit.toNat - 'a'.toNat + 10)
      else if 'A' ≤ digit && digit ≤ 'F' then
        some (digit.toNat - 'A'.toNat + 10)
      else none
  | none => none

/-- The value of four hexadecimal digits. -/
def hexCode? (first second third fourth : Option Char) : Option Nat := do
  let first ← hexDigit? first
  let second ← hexDigit? second
  let third ← hexDigit? third
  let fourth ← hexDigit? fourth
  return ((first * 16 + second) * 16 + third) * 16 + fourth

/-- The units up to the closing quote and the text after it.  Escapes must be
well formed and controls are refused; nothing else is checked. -/
def stringBody? : Units → Option (Units × Units)
  | [] => none
  | some '"' :: rest => some ([], rest)
  | some '\\' :: some 'u' :: first :: second :: third :: fourth :: rest =>
      match hexCode? first second third fourth, stringBody? rest with
      | some _, some (body, after) =>
          some (some '\\' :: some 'u' :: first :: second :: third :: fourth ::
                  body, after)
      | _, _ => none
  | some '\\' :: some escape :: rest =>
      if escape ∈ ['"', '\\', '/', 'b', 'f', 'n', 'r', 't'] then
        (stringBody? rest).map fun (body, after) =>
          (some '\\' :: some escape :: body, after)
      else none
  | some '\\' :: _ => none
  | unit :: rest =>
      if unit.any (· < ' ') then none
      else (stringBody? rest).map fun (body, after) => (unit :: body, after)

/-- The decimal digits at the start of a text. -/
def digits : Units → List Char × Units
  | some digit :: rest =>
      if '0' ≤ digit && digit ≤ '9' then
        let (more, after) := digits rest
        (digit :: more, after)
      else ([], some digit :: rest)
  | text => ([], text)

/-- The digits before the point: a zero stands alone. -/
def wholePart? (text : Units) : Option (List Char × Units) :=
  match digits text with
  | ([], _) => none
  | ('0' :: _ :: _, _) => none
  | (whole, rest) => some (whole, rest)

/-- The point and the digits after it, at least one, if there is a point. -/
def fractionPart? : Units → Option (Option (List Char) × Units)
  | some '.' :: rest =>
      match digits rest with
      | ([], _) => none
      | (fraction, after) => some (some fraction, after)
  | text => some (none, text)

/-- The exponent, at least one digit, if there is an exponent mark. -/
def powerPart? (text : Units) : Option (Option (Bool × List Char) × Units) :=
  let read (negative : Bool) (rest : Units) :=
    match digits rest with
    | ([], _) => none
    | (power, after) => some (some (negative, power), after)
  let signed : Units → Option (Option (Bool × List Char) × Units)
    | some '+' :: rest => read false rest
    | some '-' :: rest => read true rest
    | rest => read false rest
  match text with
  | some 'e' :: rest => signed rest
  | some 'E' :: rest => signed rest
  | _ => some (none, text)

def numberLexeme? (negative : Bool) (text : Units) :
    Option (NumberLexeme × Units) := do
  let (whole, text) ← wholePart? text
  let (fraction, text) ← fractionPart? text
  let (power, text) ← powerPart? text
  return ({ negative, whole, fraction, power }, text)

mutual

/-- A value at the start of a text, blanks before it allowed.  Each level of
reading uses up a unit of fuel and a character. -/
def value? : Nat → Units → Option (Raw × Units)
  | 0, _ => none
  | fuel + 1, text =>
      match skipBlanks text with
      | some 'n' :: rest => (word? ['u', 'l', 'l'] rest).map (.null, ·)
      | some 't' :: rest => (word? ['r', 'u', 'e'] rest).map (.bool true, ·)
      | some 'f' :: rest =>
        (word? ['a', 'l', 's', 'e'] rest).map (.bool false, ·)
      | some '"' :: rest =>
          (stringBody? rest).map fun (body, after) => (.string body, after)
      | some '[' :: rest =>
          match skipBlanks rest with
          | some ']' :: after => some (.array [], after)
          | inside =>
              (items? fuel inside).map
                fun (items, after) => (.array items, after)
      | some '{' :: rest =>
          match skipBlanks rest with
          | some '}' :: after => some (.object [], after)
          | inside =>
              (membersOf? fuel inside).map fun (members, after) =>
                (.object members, after)
      | some '-' :: rest =>
          (numberLexeme? true rest).map
            fun (lexeme, after) => (.number lexeme, after)
      | inside =>
          (numberLexeme? false inside).map fun (lexeme, after) =>
            (.number lexeme, after)

/-- The items of an array that has one, up to its closing bracket. -/
def items? : Nat → Units → Option (List Raw × Units)
  | 0, _ => none
  | fuel + 1, text =>
      match value? fuel text with
      | none => none
      | some (item, rest) =>
          match skipBlanks rest with
          | some ']' :: after => some ([item], after)
          | some ',' :: more =>
              (items? fuel more).map
                fun (items, after) => (item :: items, after)
          | _ => none

/-- The members of an object that has one, up to its closing brace. -/
def membersOf? : Nat → Units → Option (List (Units × Raw) × Units)
  | 0, _ => none
  | fuel + 1, text =>
      match skipBlanks text with
      | some '"' :: rest =>
          match stringBody? rest with
          | none => none
          | some (key, rest) =>
              match skipBlanks rest with
              | some ':' :: rest =>
                  match value? fuel rest with
                  | none => none
                  | some (value, rest) =>
                      match skipBlanks rest with
                      | some '}' :: after => some ([(key, value)], after)
                      | some ',' :: more =>
                          (membersOf? fuel more).map fun (members, after) =>
                            ((key, value) :: members, after)
                      | _ => none
              | _ => none
      | _ => none

end

/-- The tree of a whole text, which holds one value and blanks around it. -/
def ofUnits? (text : Units) : Option Raw :=
  match value? (text.length + 1) text with
  | some (raw, rest) => if (skipBlanks rest).isEmpty then some raw else none
  | none => none

/-- The tree of a sequence of bytes. -/
def ofBytes? (bytes : List UInt8) : Option Raw :=
  ofUnits? (Utf8.decode bytes)

def ofString? (text : String) : Option Raw :=
  ofUnits? (text.toList.map some)

end Raw

end GraphPipeline.Json
