import GraphPipeline.Json.Basic
import GraphPipeline.Json.Raw

/-!
# Reading JSON values

A reader states the shape of what it needs: a whole value, a list, or a record
of named fields.  Members outside the record are passed over unread.  A whole
object keeps the last value of a repeated key at the first position; a record
keeps every occurrence of its fields, so that the caller can refuse a
repetition.  Containers may be nested to a fixed depth.

An integer that fits in 64 bits, with or without a sign, stays an integer; every
other number is binary.  Its significand is made of the leading digits that fit
in 64 bits, rounded once, and scaled by a power of ten, rounded again.
-/

namespace GraphPipeline.Json

namespace NumberLexeme

/-- The largest significand. -/
def significandLimit : Nat := 0x10000000000000000

/-- Appends digits to a significand as long as it stays below the limit.
The second component holds the digits left over. -/
def appendDigits (significand : Nat) : List Char → Nat × List Char
  | [] => (significand, [])
  | digit :: rest =>
      let next := significand * 10 + (digit.toNat - '0'.toNat)
      if next < significandLimit then appendDigits next rest
      else (significand, digit :: rest)

/-- Divides by a power of ten in steps that are themselves finite numbers.
Three steps reduce every significand to zero. -/
def divideByTens : Nat → Binary64 → Nat → Binary64
  | 0, dividend, _ => dividend
  | steps + 1, dividend, power =>
      if dividend.isZero then dividend
      else
        let step := min power 308
        let divided := (Binary64.ofDecimal? false 1 step).bind dividend.div?
        let quotient := divided.getD (Binary64.zero dividend.negative)
        if power ≤ 308 then quotient
        else divideByTens steps quotient (power - step)

/-- Scales a number by a power of ten. -/
def scaleByTens? (unscaled : Binary64) (power : Int) : Option Binary64 :=
  if power < 0 then some (divideByTens 3 unscaled power.natAbs)
  else if power ≤ 308 then
    (Binary64.ofDecimal? false 1 power).bind unscaled.mul?
  else if unscaled.isZero then some unscaled
  else none

/-- The exponent written after the mark.  One of more than 31 bits stands for
any value beyond the range of the format. -/
def powerValue : Option (Bool × List Char) → Int
  | none => 0
  | some (negative, digits) =>
      let size := digits.foldl (fun size digit =>
        min (size * 10 + (digit.toNat - '0'.toNat)) 0x80000000) 0
      if negative then -size else size

/-- The binary number, unless it is too large. -/
def float? (lexeme : NumberLexeme) : Option Binary64 := do
  let (leading, dropped) := appendDigits 0 lexeme.whole
  let fraction := lexeme.fraction.getD []
  let (significand, unused) := appendDigits leading fraction
  let used := fraction.length - unused.length
  let power := (dropped.length : Int) - used + powerValue lexeme.power
  let rounded ← Binary64.ofQuotient? lexeme.negative significand 1
  scaleByTens? rounded power

/-- The number a lexeme stands for, unless it is too large. -/
def number? (lexeme : NumberLexeme) : Option Number :=
  match lexeme.fraction, lexeme.power, appendDigits 0 lexeme.whole with
  | none, none, (significand, []) =>
      if lexeme.negative then
        if 0 < significand ∧ significand ≤ 0x8000000000000000 then
          some (.integer (-significand))
        else lexeme.float?.map .float
      else some (.integer significand)
  | _, _, _ => lexeme.float?.map .float

end NumberLexeme

namespace Units

def simpleEscape : Char → Char
  | 'b' => Char.ofNat 8
  | 'f' => Char.ofNat 12
  | 'n' => '\n'
  | 'r' => '\r'
  | 't' => '\t'
  | other => other

/-- The text of a string body.  Malformed bytes and surrogates without a
partner are refused. -/
def text? : Units → Option (List Char)
  | [] => some []
  | some '\\' :: some 'u' :: first :: second :: third :: fourth ::
      some '\\' :: some 'u' :: fifth :: sixth :: seventh :: eighth :: rest => do
      let code ← Raw.hexCode? first second third fourth
      if code < 0xD800 || 0xE000 ≤ code then
        let after ← text? (some '\\' :: some 'u' :: fifth :: sixth :: seventh ::
          eighth :: rest)
        return Char.ofNat code :: after
      else
        let low ← Raw.hexCode? fifth sixth seventh eighth
        if code < 0xDC00 && 0xDC00 ≤ low && low < 0xE000 then
          let after ← text? rest
          return Char.ofNat
              (0x10000 + (code - 0xD800) * 0x400 + (low - 0xDC00)) :: after
        else none
  | some '\\' :: some 'u' :: first :: second :: third :: fourth :: rest => do
      let code ← Raw.hexCode? first second third fourth
      if code < 0xD800 || 0xE000 ≤ code then
        let after ← text? rest
        return Char.ofNat code :: after
      else none
  | some '\\' :: some escape :: rest =>
    (text? rest).map (simpleEscape escape :: ·)
  | some character :: rest => (text? rest).map (character :: ·)
  | none :: _ => none

def string? (units : Units) : Option String :=
  (text? units).map String.ofList

end Units

/-- What a reader needs of a value. -/
inductive ReadShape where
  | whole
  | list (element : ReadShape)
  | record (fields : List (String × ReadShape))

namespace ReadShape

/-- The shape of an item of an array; a record may be given as the array of its
fields. -/
def item : ReadShape → Nat → ReadShape
  | .whole, _ => .whole
  | .list element, _ => element
  | .record fields, index => ((fields[index]?).map Prod.snd).getD .whole

/-- The shape of a member of an object, or nothing when it is passed over. -/
def member? : ReadShape → String → Option ReadShape
  | .record fields, key => Entries.lookup? fields key
  | _, _ => some .whole

def keepsRepeated : ReadShape → Bool
  | .record _ => true
  | _ => false

end ReadShape

namespace Raw

mutual

/-- The value of the parts a shape asks for, with at most `depth` containers
inside each other. -/
def read? : Raw → ReadShape → Nat → Option Json
  | .null, _, _ => some .null
  | .bool value, _, _ => some (.bool value)
  | .number lexeme, _, _ => lexeme.number?.map .number
  | .string body, _, _ => (Units.string? body).map .string
  | .array items, shape, depth + 1 =>
    (readItems? items shape 0 depth).map .array
  | .object members, shape, depth + 1 =>
      (readMembers? members shape depth).map fun entries =>
        if shape.keepsRepeated then .object entries
        else .object (Entries.ofAssignments entries)
  | .array _, _, 0 => none
  | .object _, _, 0 => none

def readItems? : List Raw → ReadShape → Nat → Nat → Option (List Json)
  | [], _, _, _ => some []
  | item :: items, shape, index, depth =>
      match read? item (shape.item index) depth,
          readItems? items shape (index + 1) depth with
      | some value, some values => some (value :: values)
      | _, _ => none

def readMembers? : List (Units × Raw) → ReadShape → Nat →
    Option (List (String × Json))
  | [], _, _ => some []
  | (key, member) :: members, shape, depth =>
      match Units.string? key, readMembers? members shape depth with
      | some name, some entries =>
          match shape.member? name with
          | none => some entries
          | some inner =>
              (read? member inner depth).map
                fun value => (name, value) :: entries
      | _, _ => none

end

end Raw

/-- The deepest nesting of containers a text may have. -/
def nestingLimit : Nat := 127

/-- The value of a text. -/
def parse? (text : String) : Option Json :=
  (Raw.ofString? text).bind (·.read? .whole nestingLimit)

end GraphPipeline.Json
