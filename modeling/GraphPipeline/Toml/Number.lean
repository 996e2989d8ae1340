import GraphPipeline.Toml.Basic

/-!
# TOML numbers, dates and times

Values that are written without quotes and start with a digit or a sign.
Underscores may stand between two digits, integers fit in 64 bits, and dates
follow the calendar.
-/

namespace GraphPipeline.Toml

def isDigit (character : Char) : Bool :=
  '0' ≤ character && character ≤ '9'

/-- The value of a digit in the bases up to sixteen. -/
def digitValue? (character : Char) : Option Nat :=
  if isDigit character then some (character.toNat - '0'.toNat)
  else if 'a' ≤ character && character ≤ 'f' then
    some (character.toNat - 'a'.toNat + 10)
  else if 'A' ≤ character && character ≤ 'F' then
    some (character.toNat - 'A'.toNat + 10)
  else none

/-- Digits of a base, in which underscores stand between two digits. -/
def digits? (base : Nat) : List Char → Option (List Nat)
  | [] => none
  | [last] => ((digitValue? last).filter (· < base)).map fun digit => [digit]
  | first :: '_' :: rest => do
      let digit ← (digitValue? first).filter (· < base)
      let digits ← digits? base rest
      return digit :: digits
  | first :: rest => do
      let digit ← (digitValue? first).filter (· < base)
      let digits ← digits? base rest
      return digit :: digits

def numberOf (base : Nat) (digits : List Nat) : Nat :=
  digits.foldl (fun number digit => number * base + digit) 0

/-- Decimal digits, without a zero in front of another digit. -/
def wholeDigits? (text : List Char) : Option (List Nat) :=
  match digits? 10 text with
  | some (0 :: _ :: _) => none
  | result => result

/-- A sign in front of a number, and the text after it. -/
def splitSign : List Char → Bool × List Char
  | '-' :: rest => (true, rest)
  | '+' :: rest => (false, rest)
  | text => (false, text)

def inRange (value : Int) : Option Int :=
  if -0x8000000000000000 ≤ value ∧ value < 0x8000000000000000 then some value
  else none

def integer? : List Char → Option Int
  | '0' :: 'x' :: rest =>
    (digits? 16 rest).bind fun digits => inRange (numberOf 16 digits)
  | '0' :: 'o' :: rest =>
    (digits? 8 rest).bind fun digits => inRange (numberOf 8 digits)
  | '0' :: 'b' :: rest =>
    (digits? 2 rest).bind fun digits => inRange (numberOf 2 digits)
  | text =>
      let (negative, rest) := splitSign text
      (wholeDigits? rest).bind fun digits =>
        let size : Int := numberOf 10 digits
        inRange (if negative then -size else size)

/-- The exponent after its mark, if the text is one. -/
def isExponent (text : List Char) : Bool :=
  ((digits? 10 (splitSign text).2)).isSome

/-- Whether a text without its sign is a decimal number with a fraction or an
exponent. -/
def isFloatBody (text : List Char) : Bool :=
  let isMark := fun character => character == 'e' || character == 'E'
  let mantissa := text.takeWhile (!isMark ·)
  let exponent := text.dropWhile (!isMark ·)
  let whole := mantissa.takeWhile (· != '.')
  let fraction := mantissa.dropWhile (· != '.')
  (wholeDigits? whole).isSome &&
    (fraction.isEmpty || (digits? 10 (fraction.drop 1)).isSome) &&
    (exponent.isEmpty || isExponent (exponent.drop 1)) &&
    !(fraction.isEmpty && exponent.isEmpty)

/-- A binary number.  A positive one that is too large is refused, and a
negative one is taken for the negative infinity. -/
def float? (text : List Char) : Option Extended64 :=
  let (_, body) := splitSign text
  if body = ['i', 'n', 'f'] || body = ['n', 'a', 'n'] then
    Extended64.parse? (String.ofList text)
  else if isFloatBody body then
    match Extended64.parse? (String.ofList (text.filter (· != '_'))) with
    | some (.infinite false) => none
    | number => number
  else none

/-- A number of two digits below a limit. -/
def twoDigits? (limit : Nat) : List Char → Option (Nat × List Char)
  | tens :: ones :: rest =>
      if isDigit tens && isDigit ones then
        let value := (tens.toNat - '0'.toNat) * 10 + (ones.toNat - '0'.toNat)
        if value < limit then some (value, rest) else none
      else none
  | _ => none

def isLeapYear (year : Nat) : Bool :=
  year % 4 = 0 && (year % 100 ≠ 0 || year % 400 = 0)

def daysInMonth (year month : Nat) : Nat :=
  if month = 2 then (if isLeapYear year then 29 else 28)
  else if month ∈ [4, 6, 9, 11] then 30
  else 31

/-- The rest of a text after a date. -/
def date? (text : List Char) : Option (List Char) := do
  let (century, rest) ← twoDigits? 100 text
  let (year, rest) ← twoDigits? 100 rest
  match rest with
  | '-' :: rest =>
      let (month, rest) ← twoDigits? 13 rest
      match rest with
      | '-' :: rest =>
          let (day, rest) ← twoDigits? 32 rest
          if 1 ≤ month && 1 ≤ day &&
              day ≤ daysInMonth (century * 100 + year) month then
            return rest
          else none
      | _ => none
  | _ => none

/-- The rest of a text after a colon and a number of two digits. -/
def colonPart? (limit : Nat) : List Char → Option (List Char)
  | ':' :: rest => (twoDigits? limit rest).map Prod.snd
  | _ => none

/-- The rest of a text after a time of day. -/
def time? (text : List Char) : Option (List Char) := do
  let (_, rest) ← twoDigits? 24 text
  let rest ← colonPart? 60 rest
  let rest ← colonPart? 61 rest
  match rest with
  | '.' :: fraction =>
      match fraction with
      | digit :: _ =>
        if isDigit digit then return fraction.dropWhile isDigit else none
      | [] => none
  | _ => return rest

/-- Whether a text is the offset of a time, or empty. -/
def isOffset : List Char → Bool
  | [] => true
  | ['Z'] => true
  | ['z'] => true
  | sign :: rest =>
      (sign == '+' || sign == '-') &&
        match twoDigits? 24 rest with
        | some (_, rest) => colonPart? 60 rest == some []
        | none => false

/-- Whether a text is a date, a time, or a date and a time. -/
def isDateTime (text : List Char) : Bool :=
  match date? text with
  | some [] => true
  | some (separator :: rest) =>
      (separator == 'T' || separator == 't' || separator == ' ') &&
        (time? rest).any isOffset
  | none => time? text == some []

/-- The value of a text that starts with a digit or a sign. -/
def numberValue? (text : List Char) : Option Value :=
  if isDateTime text then some (.dateTime (String.ofList text))
  else
    match float? text, integer? text with
    | some value, _ => some (.float value)
    | none, some value => some (.integer value)
    | none, none => none

end GraphPipeline.Toml
