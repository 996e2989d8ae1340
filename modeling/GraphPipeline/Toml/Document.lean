import GraphPipeline.Toml.Text

/-!
# TOML documents

A document is a sequence of lines.  A line sets a key, opens a table or a new
element of an array of tables, or is empty, and may end in a comment.
-/

namespace GraphPipeline.Toml

/-- The characters of words that are neither strings nor containers. -/
def isWordCharacter (character : Char) : Bool :=
  character.isAlphanum || character ∈ ['+', '-', '.', ':', '_']

/-- A number, a date or a time.  A date and a time may be separated by a
blank. -/
def word? (text : List Char) : Parsed Value :=
  let word := text.takeWhile isWordCharacter
  let rest := text.dropWhile isWordCharacter
  match rest with
  | ' ' :: next :: more =>
      if date? word = some [] && isDigit next then
        let time := (next :: more).takeWhile isWordCharacter
        (numberValue? (word ++ ' ' :: time)).map fun value =>
          (value, (next :: more).dropWhile isWordCharacter)
      else (numberValue? word).map fun value => (value, rest)
  | _ => (numberValue? word).map fun value => (value, rest)

mutual

/-- A value at the start of a text, with containers nested to at most
`depth`. -/
def value? : Nat → Nat → List Char → Parsed Value
  | 0, _, _ => none
  | fuel + 1, depth, text =>
      match text with
      | 't' :: 'r' :: 'u' :: 'e' :: rest => some (.boolean true, rest)
      | 'f' :: 'a' :: 'l' :: 's' :: 'e' :: rest => some (.boolean false, rest)
      | '"' :: _ =>
        (string? text).map fun (value, rest) => (.string value, rest)
      | '\'' :: _ =>
        (string? text).map fun (value, rest) => (.string value, rest)
      | '[' :: rest =>
          match depth with
          | 0 => none
          | depth + 1 =>
              (items? fuel depth
                (skipLayout false rest)).map fun (items, rest) =>
                (.array items, rest)
      | '{' :: rest =>
          match depth with
          | 0 => none
          | depth + 1 =>
              match skipBlanks rest with
              | '}' :: after => some (.table [], after)
              | inside =>
                  match pairs? fuel depth inside with
                  | none => none
                  | some (pairs, after) =>
                      (inlineTable? pairs).map fun members =>
                        (.table (membersToValues members), after)
      | _ => word? text

/-- The items of an array, up to its closing bracket. -/
def items? : Nat → Nat → List Char → Parsed (List Value)
  | 0, _, _ => none
  | fuel + 1, depth, text =>
      match text with
      | ']' :: after => some ([], after)
      | _ =>
          match value? fuel depth text with
          | none => none
          | some (item, rest) =>
              match skipLayout false rest with
              | ']' :: after => some ([item], after)
              | ',' :: more =>
                  (items? fuel depth
                    (skipLayout false more)).map fun (items, after) =>
                    (item :: items, after)
              | _ => none

/-- The keys and values of an inline table that has one, up to its closing
brace. -/
def pairs? : Nat → Nat → List Char → Parsed (List (List String × Value))
  | 0, _, _ => none
  | fuel + 1, depth, text =>
      match keyPath? text with
      | some (keys, '=' :: rest) =>
          match value? fuel depth (skipBlanks rest) with
          | none => none
          | some (value, rest) =>
              match skipBlanks rest with
              | '}' :: after => some ([(keys, value)], after)
              | ',' :: more =>
                  (pairs? fuel depth more).map fun (pairs, after) =>
                    ((keys, value) :: pairs, after)
              | _ => none
      | _ => none

end

/-- What a line of a document does. -/
inductive Line where
  | set (keys : List String) (value : Value)
  | table (keys : List String)
  | element (keys : List String)
  | empty

/-- The rest of a text after the end of a line and a comment before it. -/
def endOfLine? (text : List Char) : Option (List Char) :=
  let rest :=
    match skipBlanks text with
    | '#' :: comment => comment.dropWhile isPrintable
    | rest => rest
  match rest with
  | [] => some []
  | rest => lineBreak? rest

/-- A line without its end. -/
def line? (text : List Char) : Parsed Line :=
  match text with
  | [] => some (.empty, [])
  | '#' :: _ => some (.empty, text)
  | '\n' :: _ => some (.empty, text)
  | '\r' :: _ => some (.empty, text)
  | '[' :: '[' :: rest =>
      match keyPath? rest with
      | some (keys, ']' :: ']' :: after) => some (.element keys, after)
      | _ => none
  | '[' :: rest =>
      match keyPath? rest with
      | some (keys, ']' :: after) => some (.table keys, after)
      | _ => none
  | _ =>
      match keyPath? text with
      | some (keys, '=' :: rest) =>
          (value? (rest.length + 1) (depthLimit - 1) (skipBlanks rest)).map
            fun (value, after) => (.set keys value, after)
      | _ => none

/-- The lines of a text, of which there are at most as many as characters. -/
def lines? : Nat → List Char → Option (List Line)
  | _, [] => some []
  | 0, _ :: _ => none
  | fuel + 1, text => do
      let (line, rest) ← line? (skipBlanks text)
      let rest ← endOfLine? rest
      let lines ← lines? fuel rest
      return line :: lines

/-- The tables built by some lines.  Keys are set in the table that was opened
last, at `current`. -/
def build? : List Line → List String → Entries Item → Option (Entries Item)
  | [], _, members => some members
  | .empty :: lines, current, members => build? lines current members
  | .set keys value :: lines, current, members => do
      let (path, key) ← splitLast keys
      let members ←
        changeAt .implied current (setKey path key value) .opened members
      build? lines current members
  | .table keys :: lines, _, members => do
      let (path, key) ← splitLast keys
      let members ← changeAt .implied path (openTable key) .opened members
      build? lines keys members
  | .element keys :: lines, _, members => do
      let (path, key) ← splitLast keys
      let members ← changeAt .implied path (openElement key) .opened members
      build? lines keys members

/-- The text without a byte order mark at its start. -/
def withoutMark : List Char → List Char
  | character :: rest =>
    if character.toNat = 0xFEFF then rest else character :: rest
  | [] => []

/-- The table a document describes. -/
def parse? (text : String) : Option (Entries Value) := do
  let characters := withoutMark text.toList
  let lines ← lines? characters.length characters
  let members ← build? lines [] []
  return membersToValues members

end GraphPipeline.Toml
