import SyscallTrace.Bytes.LittleEndian

/-!
# UTF-8

Reading UTF-8 with exact blame. `Utf8.next` looks at the front of a byte string and finds a
character, a run of bytes that no character starts with, or the beginning of a character that the
string is too short for. The ranges of `Utf8.lead` are those of the Unicode Standard: no overlong
forms, no surrogates, nothing above `U+10FFFF`. String parameters are read this way (specification
§15.3).

- `Utf8.decode` accepts well-formed strings only, and says where and why another one fails.
- `Utf8.decodeLossy` accepts every string: each offending run, and a cut character at the end,
  become one `U+FFFD`.
-/

namespace SyscallTrace

namespace Utf8

/-- What the front of a non-empty byte string holds. -/
inductive Front where
  /-- A character of the given size in bytes. -/
  | char (c : Char) (size : Nat)
  /-- As many bytes that start no character: the longest run that could have been the front of
  one, or a single byte. -/
  | stray (size : Nat)
  /-- The front of a character whose other bytes are missing. -/
  | cut
  deriving DecidableEq, Repr

/-- The payload bits of a first byte and the ranges of the bytes that have to follow it. -/
def lead (b : UInt8) : Option (Nat × List (UInt8 × UInt8)) :=
  if b < 0x80 then some (b.toNat, [])
  else if b < 0xC2 then none
  else if b < 0xE0 then some (b.toNat - 0xC0, [(0x80, 0xBF)])
  else if b = 0xE0 then some (0, [(0xA0, 0xBF), (0x80, 0xBF)])
  else if b = 0xED then some (0xD, [(0x80, 0x9F), (0x80, 0xBF)])
  else if b < 0xF0 then some (b.toNat - 0xE0, [(0x80, 0xBF), (0x80, 0xBF)])
  else if b = 0xF0 then some (0, [(0x90, 0xBF), (0x80, 0xBF), (0x80, 0xBF)])
  else if b < 0xF4 then some (b.toNat - 0xF0, [(0x80, 0xBF), (0x80, 0xBF), (0x80, 0xBF)])
  else if b = 0xF4 then some (4, [(0x80, 0x8F), (0x80, 0xBF), (0x80, 0xBF)])
  else none

/-- Reads the bytes that follow a first byte: `value` holds the bits so far, `size` counts the
bytes. -/
def follow (value size : Nat) : List (UInt8 × UInt8) → Bytes → Front
  | [], _ => .char (Char.ofNat value) size
  | _ :: _, [] => .cut
  | (low, high) :: ranges, b :: bs =>
    if low ≤ b ∧ b ≤ high then follow (value * 64 + (b.toNat - 0x80)) (size + 1) ranges bs
    else .stray size

/-- The front of the byte string `b :: bs`. -/
def next (b : UInt8) (bs : Bytes) : Front :=
  match lead b with
  | none => .stray 1
  | some (value, ranges) => follow value 1 ranges bs

/-- Why a byte string is not well-formed. -/
structure DecodeError where
  /-- Length of the well-formed part in front. -/
  validUpTo : Nat
  /-- Size of the offending run, none when the string ends inside a character. -/
  errorLength : Option Nat
  deriving DecidableEq, Repr

/-- Reads characters one after the other: `skip` bytes still belong to the last of them, `offset`
counts the bytes before the ones given, and `chars` holds what was read, last character first. -/
def decodeFrom (skip offset : Nat) (chars : List Char) : Bytes → Except DecodeError (List Char)
  | [] => .ok chars.reverse
  | b :: bs =>
    match skip with
    | k + 1 => decodeFrom k (offset + 1) chars bs
    | 0 =>
      match next b bs with
      | .char c size => decodeFrom (size - 1) (offset + 1) (c :: chars) bs
      | .stray size => .error { validUpTo := offset, errorLength := some size }
      | .cut => .error { validUpTo := offset, errorLength := none }

/-- The characters of a well-formed byte string. -/
def decode (bs : Bytes) : Except DecodeError (List Char) := decodeFrom 0 0 [] bs

/-- Stands in for bytes that are no character. -/
def replacement : Char := '\uFFFD'

/-- Reads characters one after the other, as `decodeFrom` does, with a replacement for every
offending run. -/
def decodeLossyFrom (skip : Nat) (chars : List Char) : Bytes → List Char
  | [] => chars.reverse
  | b :: bs =>
    match skip with
    | k + 1 => decodeLossyFrom k chars bs
    | 0 =>
      match next b bs with
      | .char c size => decodeLossyFrom (size - 1) (c :: chars) bs
      | .stray size => decodeLossyFrom (size - 1) (replacement :: chars) bs
      | .cut => (replacement :: chars).reverse

/-- The characters of any byte string. -/
def decodeLossy (bs : Bytes) : List Char := decodeLossyFrom 0 [] bs

/-- The bytes of a text. -/
def encode (s : String) : Bytes := s.toUTF8.toList

/-- The text of a byte string, with replacements. -/
def lossyText (bs : Bytes) : String := String.ofList (decodeLossy bs)

end Utf8

end SyscallTrace
