import GraphPipeline.Toml.Number

/-!
# TOML strings and keys

Strings stand between quotes, three on each side if they go over several lines.
Double quotes allow escapes, single quotes do not.  A key is a bare word or a
string on one line, and keys may be joined by dots.
-/

namespace GraphPipeline.Toml

def isBlank (character : Char) : Bool :=
  character == ' ' || character == '\t'

/-- The rest of a text after its blanks. -/
def skipBlanks : List Char → List Char
  | [] => []
  | character :: rest =>
    if isBlank character then skipBlanks rest else character :: rest

/-- Whether a character may stand in comments and strings: the controls may not,
the tab apart. -/
def isPrintable (character : Char) : Bool :=
  character == '\t' || (' ' ≤ character && character.toNat ≠ 127)

/-- The rest of a text after a line break at its start. -/
def lineBreak? : List Char → Option (List Char)
  | '\n' :: rest => some rest
  | '\r' :: '\n' :: rest => some rest
  | _ => none

/-- The rest of a text after one line break, if it starts with one. -/
def skipLineBreak (text : List Char) : List Char :=
  (lineBreak? text).getD text

/-- The rest of a text after blanks, line breaks and comments. -/
def skipLayout (inComment : Bool) : List Char → List Char
  | [] => []
  | '\r' :: '\n' :: rest => skipLayout false rest
  | '\n' :: rest => skipLayout false rest
  | character :: rest =>
      if inComment then
        if isPrintable character then skipLayout true rest
        else character :: rest
      else if isBlank character then skipLayout false rest
      else if character == '#' then skipLayout true rest
      else character :: rest

def simpleEscape? : Char → Option Char
  | 'b' => some (Char.ofNat 8)
  | 't' => some '\t'
  | 'n' => some '\n'
  | 'f' => some (Char.ofNat 12)
  | 'r' => some '\r'
  | '"' => some '"'
  | '\\' => some '\\'
  | _ => none

/-- The character with a code in hexadecimal digits. -/
def codePoint? (digits : List Char) : Option Char := do
  let values ← digits.mapM digitValue?
  let code := numberOf 16 values
  if code.isValidChar then return Char.ofNat code else none

/-- A read part of a text and the text after it. -/
abbrev Parsed (α : Type) := Option (α × List Char)

def prepend (character : Char) : Parsed (List Char) → Parsed (List Char) :=
  Option.map fun (body, rest) => (character :: body, rest)

/-- The body of a string in double quotes, up to the closing quote. -/
def basicBody? : List Char → Parsed (List Char)
  | [] => none
  | '"' :: rest => some ([], rest)
  | '\\' :: 'u' :: a :: b :: c :: d :: rest =>
      (codePoint? [a, b, c, d]).bind (prepend · (basicBody? rest))
  | '\\' :: 'U' :: a :: b :: c :: d :: e :: f :: g :: h :: rest =>
      (codePoint? [a, b, c, d, e, f, g, h]).bind (prepend · (basicBody? rest))
  | '\\' :: escape :: rest =>
    (simpleEscape? escape).bind (prepend · (basicBody? rest))
  | character :: rest =>
      if isPrintable character && character != '\\' then
        prepend character (basicBody? rest)
      else none

/-- The body of a string in single quotes, up to the closing quote. -/
def literalBody? : List Char → Parsed (List Char)
  | [] => none
  | '\'' :: rest => some ([], rest)
  | character :: rest =>
      if isPrintable character then prepend character (literalBody? rest)
      else none

/-- Whether only blanks stand before the end of the line. -/
def endsLine (text : List Char) : Bool :=
  (lineBreak? (skipBlanks text)).isSome

/-- The body of a string in three double quotes.  A backslash at the end of a
line drops the blanks and line breaks that follow it, which is what `trimming`
does.  Up to two quotes may stand before the closing ones. -/
def longBasicBody? (trimming : Bool) : List Char → Parsed (List Char)
  | [] => none
  | '"' :: '"' :: '"' :: '"' :: '"' :: rest => some (['"', '"'], rest)
  | '"' :: '"' :: '"' :: '"' :: rest => some (['"'], rest)
  | '"' :: '"' :: '"' :: rest => some ([], rest)
  | '\\' :: 'u' :: a :: b :: c :: d :: rest =>
      (codePoint? [a, b, c, d]).bind (prepend · (longBasicBody? false rest))
  | '\\' :: 'U' :: a :: b :: c :: d :: e :: f :: g :: h :: rest =>
      (codePoint? [a, b, c, d, e, f, g, h]).bind
        (prepend · (longBasicBody? false rest))
  | '\\' :: next :: rest =>
      if endsLine (next :: rest) then longBasicBody? true (next :: rest)
      else (simpleEscape? next).bind (prepend · (longBasicBody? false rest))
  | '\r' :: '\n' :: rest =>
      if trimming then longBasicBody? true rest
      else prepend '\n' (longBasicBody? false rest)
  | '\n' :: rest =>
      if trimming then longBasicBody? true rest
      else prepend '\n' (longBasicBody? false rest)
  | character :: rest =>
      if trimming && isBlank character then longBasicBody? true rest
      else if isPrintable character && character != '\\' then
        prepend character (longBasicBody? false rest)
      else none

/-- The body of a string in three single quotes. -/
def longLiteralBody? : List Char → Parsed (List Char)
  | [] => none
  | '\'' :: '\'' :: '\'' :: '\'' :: '\'' :: rest => some (['\'', '\''], rest)
  | '\'' :: '\'' :: '\'' :: '\'' :: rest => some (['\''], rest)
  | '\'' :: '\'' :: '\'' :: rest => some ([], rest)
  | '\r' :: '\n' :: rest => prepend '\n' (longLiteralBody? rest)
  | '\n' :: rest => prepend '\n' (longLiteralBody? rest)
  | character :: rest =>
      if isPrintable character then prepend character (longLiteralBody? rest)
      else none

def stringOf : Parsed (List Char) → Parsed String :=
  Option.map fun (body, rest) => (String.ofList body, rest)

/-- A string on one line. -/
def shortString? : List Char → Parsed String
  | '"' :: rest => stringOf (basicBody? rest)
  | '\'' :: rest => stringOf (literalBody? rest)
  | _ => none

/-- A string.  A line break after three opening quotes is not a part of it. -/
def string? : List Char → Parsed String
  | '"' :: '"' :: '"' :: rest =>
    stringOf (longBasicBody? false (skipLineBreak rest))
  | '\'' :: '\'' :: '\'' :: rest =>
    stringOf (longLiteralBody? (skipLineBreak rest))
  | text => shortString? text

def isBareKeyCharacter (character : Char) : Bool :=
  character.isAlphanum || character == '_' || character == '-'

def simpleKey? (text : List Char) : Parsed String :=
  match shortString? text with
  | some result => some result
  | none =>
      match text.takeWhile isBareKeyCharacter with
      | [] => none
      | word => some (String.ofList word, text.dropWhile isBareKeyCharacter)

/-- At most `count` keys joined by dots, with blanks around each of them. -/
def keys? : Nat → List Char → Parsed (List String)
  | 0, _ => none
  | count + 1, text =>
      match simpleKey? (skipBlanks text) with
      | none => none
      | some (key, rest) =>
          match skipBlanks rest with
          | '.' :: more =>
              (keys? count more).map fun (keys, after) => (key :: keys, after)
          | after => some ([key], after)

/-- Tables and arrays are nested less deep than this. -/
def depthLimit : Nat := 80

/-- Keys joined by dots.  They name a table inside of a table, so there are
fewer of them than the depth that tables may have. -/
def keyPath? (text : List Char) : Parsed (List String) :=
  (keys? text.length text).filter fun (keys, _) => keys.length < depthLimit

end GraphPipeline.Toml
