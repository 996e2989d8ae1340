import GraphPipeline.Url.Basic

/-!
# Reading URLs

A text is read as an absolute URL and brought into its normal form: the scheme
and the host in lower case, the default port left out, the segments of the path
resolved, and every character encoded that has to be.
-/

namespace GraphPipeline.Url

def isBoundary (character : Char) : Bool :=
  character ≤ ' '

/-- The text without blanks and controls around it, and without line breaks and
tabs inside it. -/
def trimmed (text : List Char) : List Char :=
  let inside :=
    ((text.dropWhile isBoundary).reverse.dropWhile isBoundary).reverse
  inside.filter fun character => !(character ∈ ['\t', '\n', '\r'])

def isSchemeCharacter (character : Char) : Bool :=
  character.isAlphanum || character ∈ ['+', '-', '.']

/-- The scheme of a text in lower case, and the text after its colon. -/
def scheme? (text : List Char) : Option (String × List Char) :=
  let scheme := text.takeWhile isSchemeCharacter
  match scheme, text.dropWhile isSchemeCharacter with
  | first :: _, ':' :: rest =>
      if first.isAlpha then some (String.ofList (scheme.map Char.toLower), rest)
      else none
  | _, _ => none

/-- Whether a character is a slash, or a backslash in a special scheme. -/
def isSlash (special : Bool) (character : Char) : Bool :=
  character == '/' || (special && character == '\\')

/-- A text split at its last `@`. -/
def splitCredentials (text : List Char) : Option (List Char) × List Char :=
  match (separated (· == '@') text).reverse with
  | host :: first :: rest =>
      (some (joined "@" ((first :: rest).reverse.map String.ofList)).toList,
       host)
  | _ => (none, text)

/-- The encoded user name and password. -/
def credentials (text : List Char) : String × String :=
  let name := text.takeWhile (· != ':')
  let password := (text.dropWhile (· != ':')).drop 1
  (String.ofList (encode userinfoSet name),
   String.ofList (encode userinfoSet password))

/-- The host at the start of a text, colons in brackets being part of it. -/
def splitHost : Bool → List Char → List Char × List Char
  | _, [] => ([], [])
  | inBrackets, character :: rest =>
      if character == ':' && !inBrackets then ([], character :: rest)
      else
        let inside :=
          if character == '[' then true
          else if character == ']' then false else inBrackets
        let (host, after) := splitHost inside rest
        (character :: host, after)

/-- The port at the start of a text and the text after it, which must be a path.
The port may be left out, and the default port of the scheme counts as none. -/
def port? (scheme : String) : List Char → Option (Option Nat × List Char)
  | ':' :: text => do
      let digits := text.takeWhile Char.isDigit
      let after := text.dropWhile Char.isDigit
      if after.head?.any (!isSlash true ·) then none
      if digits.isEmpty then return (none, after)
      let port ← (numberIn? 10 digits).filter (· ≤ 65535)
      return (if defaultPort? scheme = some port then none else some port,
              after)
  | text => some (none, text)

def host? (scheme : String) (text : List Char) : Option Host :=
  if isSpecial scheme then specialHost? text else opaqueHost? text

/-- The authority of a scheme other than `file`, and the text after its port.
Only the schemes that are not special may leave the host empty, and then neither
credentials nor a port may stand beside it.  A mark of credentials without any
is let pass at the very end of a URL. -/
def authority? (scheme : String) (atEnd : Bool) (text : List Char) :
    Option (Authority × List Char) := do
  let (userinfo, location) := splitCredentials text
  let (username, password) := credentials (userinfo.getD [])
  let (hostText, portText) := splitHost false location
  if hostText.isEmpty then
    if isSpecial scheme || !portText.isEmpty then none
    if !(username.isEmpty && password.isEmpty) then none
    if userinfo = some [] && !atEnd then none
  let host ← host? scheme hostText
  let (port, after) ← port? scheme portText
  return ({ username, password, host, port }, after)

/-- The authority without a host. -/
def noHost : Authority :=
  { username := "", password := "", host := .domain "", port := none }

/-- The authority of a `file` URL, which is a host or nothing. -/
def fileAuthority? (text : List Char) : Option Authority :=
  if text.isEmpty then some noHost
  else
    (specialHost? text).map fun host =>
      if host = .domain "localhost" then noHost else { noHost with host }

/-- A segment in which an encoded point is as good as a point. -/
def plainPoints : List Char → List Char
  | '%' :: '2' :: 'e' :: rest => '.' :: plainPoints rest
  | '%' :: '2' :: 'E' :: rest => '.' :: plainPoints rest
  | character :: rest => character :: plainPoints rest
  | [] => []

/-- Whether a segment is the letter of a drive. -/
def isDriveLetter : List Char → Bool
  | [letter, mark] => letter.isAlpha && (mark == ':' || mark == '|')
  | _ => false

/-- Whether a segment starts like the letter of a drive. -/
def startsWithDrive : List Char → Bool
  | letter :: mark :: rest =>
      isDriveLetter [letter, mark] && rest.head?.all (isSlash true)
  | _ => false

/-- A path while its segments are resolved.  The segments so far all have a
slash after them. -/
structure PathProgress where
  segments : List (List Char)
  metDrive : Bool

namespace PathProgress

/-- The path of the root. -/
def root : PathProgress :=
  { segments := [], metDrive := false }

/-- The path above, except that the letter of a drive is never left. -/
def shorten (progress : PathProgress) : PathProgress :=
  if progress.segments.getLast?.any startsWithDrive then progress
  else { progress with segments := progress.segments.dropLast }

/-- Adds a segment.  The letter of a drive at the start of the path of a `file`
URL is followed by a colon. -/
def add (scheme : String) (progress : PathProgress) (segment : List Char) :
    PathProgress :=
  if scheme == "file" && progress.segments.isEmpty && isDriveLetter segment then
    { segments := [segment.take 1 ++ [':']], metDrive := true }
  else { progress with
    segments := progress.segments ++ [encode pathSet segment] }

end PathProgress

/-- Resolves the segments of a path: a point stands for the same place and two
points for the one above. -/
def resolve (scheme : String) : List (List Char) → PathProgress → PathProgress
  | [], progress => progress
  | segment :: rest, progress =>
      let ended := fun (progress : PathProgress) =>
        if rest.isEmpty then progress.add scheme [] else progress
      match plainPoints segment with
      | ['.'] => resolve scheme rest (ended progress)
      | ['.', '.'] => resolve scheme rest (ended progress.shorten)
      | _ => resolve scheme rest (progress.add scheme segment)

/-- The progress after the path that follows a slash. -/
def progressOf (scheme : String) (text : List Char) : PathProgress :=
  resolve scheme (separated (isSlash (isSpecial scheme)) text) .root

def segmentsPath (segments : List (List Char)) : Path :=
  .segments (segments.map String.ofList)

/-- The path after the slash it starts with. -/
def pathOf (scheme : String) (text : List Char) : Path :=
  segmentsPath (progressOf scheme text).segments

/-- The text without the slash it may start with. -/
def dropSlash (special : Bool) : List Char → List Char
  | character :: rest =>
    if isSlash special character then rest else character :: rest
  | [] => []

/-- The path after an authority.  Only special schemes need one. -/
def pathAfterAuthority (scheme : String) (text : List Char) : Path :=
  if text.isEmpty && !isSpecial scheme then .segments []
  else pathOf scheme (dropSlash (isSpecial scheme) text)

/-- The parts of a text before a query, of the query, and of the fragment. -/
def splitParts (text : List Char) :
    List Char × Option (List Char) × Option (List Char) :=
  let fragment :=
    match text.dropWhile (· != '#') with
    | _ :: fragment => some fragment
    | [] => none
  let rest := text.takeWhile (· != '#')
  let query :=
    match rest.dropWhile (· != '?') with
    | _ :: query => some query
    | [] => none
  (rest.takeWhile (· != '?'), query, fragment)

/-- The authority and the path of a URL, given the text after the slashes in
front of the authority.  Nothing follows the text if `isLast` holds. -/
def authorityAndPath? (scheme : String) (isLast : Bool) (text : List Char) :
    Option (Option Authority × Path) := do
  let special := isSpecial scheme
  let path := text.dropWhile (!isSlash special ·)
  let (authority, after) ←
    authority? scheme (isLast && path.isEmpty)
      (text.takeWhile (!isSlash special ·))
  return (some authority, pathAfterAuthority scheme (after ++ path))

/-- The host and the path of a `file` URL from the text after its root.  A path
has no empty segments in front, and one that starts with a drive has no host. -/
def filePlace (authority : Authority) (text : List Char) :
    Option Authority × Path :=
  let progress := progressOf "file" text
  let segments := progress.segments.dropWhile List.isEmpty
  (some (if progress.metDrive then noHost else authority),
    segmentsPath (if segments.isEmpty then [[]] else segments))

/-- The host and the path of a `file` URL.  The letter of a drive is no host. -/
def fileLocation? (text : List Char) : Option (Option Authority × Path) := do
  match text with
  | first :: second :: rest =>
      if isSlash true first && isSlash true second then
        let hostText := rest.takeWhile (!isSlash true ·)
        if isDriveLetter hostText then return filePlace noHost rest
        let authority ← fileAuthority? hostText
        let path := rest.dropWhile (!isSlash true ·)
        if authority = noHost then return filePlace noHost path
        else return filePlace authority (dropSlash true path)
      else return filePlace noHost (dropSlash true text)
  | _ => return filePlace noHost (dropSlash true text)

/-- The authority and the path of a URL.  Any number of slashes may stand in
front of the authority if the scheme is special, and two have to otherwise. -/
def location? (scheme : String) (isLast : Bool) (text : List Char) :
    Option (Option Authority × Path) :=
  if scheme == "file" then fileLocation? text
  else if isSpecial scheme then
    authorityAndPath? scheme isLast (text.dropWhile (isSlash true))
  else
    match text with
    | '/' :: '/' :: rest => authorityAndPath? scheme isLast rest
    | '/' :: rest => some (none, pathOf scheme rest)
    | _ => some (none, .plain (String.ofList (encode controlSet text)))

/-- The URL a text stands for. -/
def parse? (text : String) : Option Address := do
  let (scheme, rest) ← scheme? (trimmed text.toList)
  let (place, query, fragment) := splitParts rest
  let (authority, path) ←
    location? scheme (query.isNone && fragment.isNone) place
  let queryEncoding := if isSpecial scheme then specialQuerySet else querySet
  return {
    scheme
    authority
    path
    query := query.map fun query => String.ofList (encode queryEncoding query)
    fragment :=
      fragment.map fun fragment => String.ofList (encode fragmentSet fragment) }

end GraphPipeline.Url
