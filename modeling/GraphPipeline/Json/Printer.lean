import GraphPipeline.Json.Basic
import GraphPipeline.Number.Decimal
import GraphPipeline.Text.Joined

/-!
# JSON text

Values are written without blanks, the members of objects in their order.
A string escapes the quote, the backslash and the controls below the space and
nothing else.  Binary numbers take their shortest decimal, plain between 10⁻⁵
and 10¹⁶.
-/

namespace GraphPipeline.Json

/-- Decimals are plain when their first digit lies between the fifth decimal
place and the sixteenth place before the point. -/
def numberLayout : DecimalLayout := ⟨-5, 15⟩

def Number.render : Number → String
  | .integer value => toString value
  | .float value => value.render numberLayout

/-- The two lower-case hexadecimal digits of a control character. -/
def controlDigits (character : Char) : List Char :=
  [Nat.digitChar (character.toNat / 16), Nat.digitChar (character.toNat % 16)]

def escaped (character : Char) : List Char :=
  if character = '"' then ['\\', '"']
  else if character = '\\' then ['\\', '\\']
  else if ' ' ≤ character then [character]
  else if character = '\n' then ['\\', 'n']
  else if character = '\t' then ['\\', 't']
  else if character = '\r' then ['\\', 'r']
  else if character.toNat = 8 then ['\\', 'b']
  else if character.toNat = 12 then ['\\', 'f']
  else '\\' :: 'u' :: '0' :: '0' :: controlDigits character

/-- A string between quotes. -/
def quoted (text : String) : String :=
  String.ofList ('"' :: text.toList.flatMap escaped ++ ['"'])

mutual

def render : Json → String
  | .null => "null"
  | .bool value => if value then "true" else "false"
  | .number value => value.render
  | .string value => quoted value
  | .array items => "[" ++ joined "," (renderItems items) ++ "]"
  | .object members => "\x7b" ++ joined "," (renderMembers members) ++ "\x7d"

def renderItems : List Json → List String
  | [] => []
  | item :: items => item.render :: renderItems items

def renderMembers : List (String × Json) → List String
  | [] => []
  | (key, value) :: members =>
      (quoted key ++ ":" ++ value.render) :: renderMembers members

end

end GraphPipeline.Json
