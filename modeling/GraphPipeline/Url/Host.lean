import GraphPipeline.Idna.Domain
import GraphPipeline.Text.Utf8
import GraphPipeline.Url.Percent

/-!
# Hosts

The host of an URL is a domain, an address of four or of sixteen bytes, or, for
schemes the web does not know, any text.  Domains are written in lower case and
in ASCII, and a domain that ends in a number is an address.
-/

namespace GraphPipeline.Url

inductive Host where
  | domain (name : String)
  | ipv4 (address : Nat)
  | ipv6 (pieces : List Nat)
  deriving DecidableEq

/-- The number digits of a base stand for, if all of them are digits of it. -/
def numberIn? (base : Nat) (digits : List Char) : Option Nat :=
  digits.foldl (fun number digit => do
    let number ← number
    let value ← (hexValue? digit).filter (· < base)
    return number * base + value) (some 0)

/-- A part of an address: hexadecimal after `0x`, octal after `0`, or
decimal. -/
def addressNumber? : List Char → Option Nat
  | [] => none
  | '0' :: 'x' :: digits => numberIn? 16 digits
  | '0' :: 'X' :: digits => numberIn? 16 digits
  | '0' :: digit :: digits => numberIn? 8 (digit :: digits)
  | digits => numberIn? 10 digits

/-- The parts of a domain without the empty part after a point at its end. -/
def domainParts (domain : List Char) : List (List Char) :=
  let parts := separated (· == '.') domain
  if parts.getLast? = some [] ∧ 1 < parts.length then parts.dropLast else parts

def endsInNumber (domain : List Char) : Bool :=
  match (domainParts domain).getLast? with
  | some (digit :: digits) =>
      (digit :: digits).all Char.isDigit ||
        (addressNumber? (digit :: digits)).isSome
  | _ => false

/-- The address of a domain that ends in a number.  The last part fills all
bytes that the parts before it leave. -/
def ipv4? (domain : List Char) : Option Nat := do
  let parts := domainParts domain
  let numbers ← parts.mapM addressNumber?
  let last ← numbers.getLast?
  let others := numbers.dropLast
  if 4 < numbers.length || others.any (255 < ·) then none
  if Nat.pow 256 (4 - others.length) ≤ last then none
  let leading := others.foldl (fun address number => address * 256 + number) 0
  return leading * Nat.pow 256 (4 - others.length) + last

def renderIpv4 (address : Nat) : String :=
  joined "."
    ([3, 2, 1, 0].map fun place => toString (address / Nat.pow 256 place % 256))

/-- A decimal byte without zeros in front. -/
def byte? (digits : List Char) : Option Nat :=
  match digits with
  | '0' :: _ :: _ => none
  | [] => none
  | _ =>
    if digits.length ≤ 3 then (numberIn? 10 digits).filter (· < 256) else none

/-- The two pieces of an address of four bytes at the end of a longer one. -/
def embeddedPieces? (text : List Char) : Option (List Nat) := do
  let bytes ← (separated (· == '.') text).mapM byte?
  match bytes with
  | [a, b, c, d] => return [a * 256 + b, c * 256 + d]
  | _ => none

/-- The pieces of a part of an address without a gap. -/
def pieces? : List (List Char) → Option (List Nat)
  | [] => some []
  | [last] =>
      if last.contains '.' then embeddedPieces? last
      else if last.isEmpty || 4 < last.length then none
      else (numberIn? 16 last).map fun piece => [piece]
  | part :: next :: rest =>
      if part.isEmpty || 4 < part.length then none
      else do
        let piece ← numberIn? 16 part
        let pieces ← pieces? (next :: rest)
        return piece :: pieces

/-- The text before and after the first gap, which is written as two colons. -/
def splitGap? : List Char → Option (List Char × List Char)
  | ':' :: ':' :: rest => some ([], rest)
  | character :: rest =>
      (splitGap? rest).map fun (before, after) => (character :: before, after)
  | [] => none

def piecesOf? (text : List Char) : Option (List Nat) :=
  if text.isEmpty then some [] else pieces? (separated (· == ':') text)

/-- The eight pieces of an address of sixteen bytes.  A gap stands for at least
one piece of zeros, and an embedded address can only be the last part. -/
def ipv6? (text : List Char) : Option (List Nat) :=
  match splitGap? text with
  | none => (piecesOf? text).filter (·.length = 8)
  | some (before, after) => do
      if before.contains '.' then none
      let leading ← piecesOf? before
      let trailing ← piecesOf? after
      let size := leading.length + trailing.length
      if 8 ≤ size then none
      return leading ++ List.replicate (8 - size) 0 ++ trailing

/-- The length of the run of zeros at the start of some pieces. -/
def zeroRun (pieces : List Nat) : Nat :=
  (pieces.takeWhile (· == 0)).length

/-- The position and the length of the first longest run of zeros. -/
def longestRun : List Nat → Nat → Nat × Nat
  | [], position => (position, 0)
  | piece :: pieces, position =>
      let here := zeroRun (piece :: pieces)
      let later := longestRun pieces (position + 1)
      if later.2 ≤ here then (position, here) else later

def hexText (value : Nat) : String :=
  String.ofList (Nat.toDigits 16 value)

def piecesText (pieces : List Nat) : String :=
  joined ":" (pieces.map hexText)

/-- An address of sixteen bytes, its longest run of two or more zeros left
out. -/
def renderIpv6 (pieces : List Nat) : String :=
  let (position, length) := longestRun pieces 0
  if length < 2 then piecesText pieces
  else
    piecesText (pieces.take position) ++ "::" ++
      piecesText (pieces.drop (position + length))

def Host.render : Host → String
  | .domain name => name
  | .ipv4 address => renderIpv4 address
  | .ipv6 pieces => "[" ++ renderIpv6 pieces ++ "]"

/-- The characters no host may have. -/
def forbiddenInHost : List Char :=
  [Char.ofNat 0, '\t', '\n', '\r', ' ', '#', '/', ':', '<', '>', '?', '@', '[',
   '\\', ']',
    '^', '|']

def isForbiddenInDomain (character : Char) : Bool :=
  character ∈ forbiddenInHost || character < ' ' || character == '%' ||
    character.toNat = 127

/-- The host between brackets. -/
def bracketedHost? (inside : List Char) : Option Host :=
  match inside.getLast? with
  | some ']' => (ipv6? inside.dropLast).map .ipv6
  | _ => none

/-- The host of a scheme the web knows. -/
def specialHost? (text : List Char) : Option Host :=
  match text with
  | '[' :: inside => bracketedHost? inside
  | _ => do
      let decoded ← (Utf8.decode (decode text)).mapM id
      let domain ← Idna.toAscii? decoded
      if domain.isEmpty || domain.any isForbiddenInDomain then none
      if endsInNumber domain then return .ipv4 (← ipv4? domain)
      else return .domain (String.ofList domain)

/-- The host of any other scheme, which may be empty. -/
def opaqueHost? (text : List Char) : Option Host :=
  match text with
  | '[' :: inside => bracketedHost? inside
  | _ =>
      if text.any (· ∈ forbiddenInHost) then none
      else some (.domain (String.ofList (encode controlSet text)))

end GraphPipeline.Url
