/-!
# UTF-8 text with malformed bytes

Bytes are decoded into characters without ever failing: a byte that belongs to
no well-formed sequence is kept as `none`, and decoding resumes with the next
byte.  A reader that needs the text refuses it when it meets a `none`; one that
only looks for delimiters may pass over it.
-/

namespace GraphPipeline.Utf8

/-- The six low bits of a continuation byte. -/
def continuation? (byte : UInt8) : Option Nat :=
  if 0x80 ≤ byte && byte < 0xC0 then some (byte.toNat - 0x80) else none

/-- A code point that is neither written with too many bytes, nor a surrogate,
nor beyond the last code point. -/
def character? (least code : Nat) : Option Char :=
  if least ≤ code && (code < 0xD800 || (0xE000 ≤ code && code < 0x110000)) then
    some (Char.ofNat code)
  else
    none

def twoBytes? (first second : UInt8) : Option Char := do
  let low ← continuation? second
  if 0xC0 ≤ first && first < 0xE0 then
    character? 0x80 ((first.toNat - 0xC0) * 64 + low)
  else none

def threeBytes? (first second third : UInt8) : Option Char := do
  let middle ← continuation? second
  let low ← continuation? third
  if 0xE0 ≤ first && first < 0xF0 then
    character? 0x800 (((first.toNat - 0xE0) * 64 + middle) * 64 + low)
  else none

def fourBytes? (first second third fourth : UInt8) : Option Char := do
  let high ← continuation? second
  let middle ← continuation? third
  let low ← continuation? fourth
  if 0xF0 ≤ first && first < 0xF8 then
    character? 0x10000
      ((((first.toNat - 0xF0) * 64 + high) * 64 + middle) * 64 + low)
  else none

/-- The character that starts with a byte, and how many of the following bytes
belong to it. -/
def leading (first : UInt8) (following : List UInt8) : Option Char × Nat :=
  if first < 0x80 then (some (Char.ofNat first.toNat), 0)
  else
    let two := following[0]?.bind (twoBytes? first)
    let three := following[0]?.bind fun second =>
      following[1]?.bind (threeBytes? first second)
    let four := following[0]?.bind fun second =>
      following[1]?.bind fun third =>
        following[2]?.bind (fourBytes? first second third)
    if two.isSome then (two, 1)
    else if three.isSome then (three, 2)
    else if four.isSome then (four, 3)
    else (none, 0)

/-- Decodes what follows the bytes of the previous character. -/
def decodeAfter : Nat → List UInt8 → List (Option Char)
  | _, [] => []
  | skipped + 1, _ :: rest => decodeAfter skipped rest
  | 0, first :: rest =>
      let (character, length) := leading first rest
      character :: decodeAfter length rest

/-- The characters of a byte sequence, with `none` for each malformed byte. -/
def decode (bytes : List UInt8) : List (Option Char) :=
  decodeAfter 0 bytes

end GraphPipeline.Utf8
