/-!
# Percent encoding

Characters that a part of an URL cannot hold are written as the bytes of their
UTF-8 form, each as a percent sign and two hexadecimal digits.  Every part has
its own set of such characters.
-/

namespace GraphPipeline.Url

/-- The characters that are encoded in a part of an URL. -/
abbrev EncodeSet := Char → Bool

/-- Controls and characters beyond ASCII. -/
def controlSet : EncodeSet := fun character =>
  character < ' ' || '~' < character

def fragmentSet : EncodeSet := fun character =>
  controlSet character || character ∈ [' ', '"', '<', '>', Char.ofNat 96]

def querySet : EncodeSet := fun character =>
  controlSet character || character ∈ [' ', '"', '#', '<', '>']

/-- The query of a scheme that the web knows. -/
def specialQuerySet : EncodeSet := fun character =>
  querySet character || character == '\''

def pathSet : EncodeSet := fun character =>
  fragmentSet character || character ∈ ['#', '?', '{', '}']

def userinfoSet : EncodeSet := fun character =>
  pathSet character ||
    character ∈ ['/', ':', ';', '=', '@', '[', '\\', ']', '^', '|']

/-- An upper-case hexadecimal digit. -/
def hexDigit (value : Nat) : Char :=
  (Nat.digitChar value).toUpper

def encodeByte (byte : UInt8) : List Char :=
  ['%', hexDigit (byte.toNat / 16), hexDigit (byte.toNat % 16)]

def encodeCharacter (set : EncodeSet) (character : Char) : List Char :=
  if set character then (String.utf8EncodeChar character).flatMap encodeByte
  else [character]

def encode (set : EncodeSet) (text : List Char) : List Char :=
  text.flatMap (encodeCharacter set)

def hexValue? (character : Char) : Option Nat :=
  if '0' ≤ character && character ≤ '9' then some (character.toNat - '0'.toNat)
  else if 'a' ≤ character && character ≤ 'f' then
    some (character.toNat - 'a'.toNat + 10)
  else if 'A' ≤ character && character ≤ 'F' then
    some (character.toNat - 'A'.toNat + 10)
  else none

/-- The bytes of a text, the encoded ones being decoded. -/
def decode : List Char → List UInt8
  | '%' :: high :: low :: rest =>
      match hexValue? high, hexValue? low with
      | some high, some low => (high * 16 + low).toUInt8 :: decode rest
      | _, _ => '%'.toNat.toUInt8 :: decode (high :: low :: rest)
  | character :: rest => String.utf8EncodeChar character ++ decode rest
  | [] => []

end GraphPipeline.Url
