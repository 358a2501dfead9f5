import SyscallTrace.Text.Combining
import SyscallTrace.Text.Numeral
import SyscallTrace.Text.Printable

/-!
# Quoted text

A text in quotes shows every character: those that could be mistaken, or cannot be seen, are
replaced by escapes. An escape is a backslash with one letter, or with the number of the character
in braces.
-/

namespace SyscallTrace

namespace Text

/-- An escape that gives the number of a character. -/
def numericEscape (c : Char) : List Char :=
  ['\\', 'u', '\x7b'] ++ Nat.toDigits 16 c.toNat ++ ['\x7d']

/-- A character between quotes of a kind. The other kind of quote is left alone. -/
def escape (quote c : Char) : List Char :=
  if c = '\x00' then ['\\', '0']
  else if c = '\t' then ['\\', 't']
  else if c = '\r' then ['\\', 'r']
  else if c = '\n' then ['\\', 'n']
  else if c = '\\' || c = quote then ['\\', c]
  else if isCombining c || !isPrintable c then numericEscape c
  else [c]

/-- A text in double quotes. -/
def quoted (s : String) : String :=
  String.ofList (['"'] ++ s.toList.flatMap (escape '"') ++ ['"'])

/-- A character in single quotes. -/
def quotedChar (c : Char) : String := String.ofList (['\''] ++ escape '\'' c ++ ['\''])

/-- A character that may be missing. -/
def optionalChar : Option Char → String
  | some c => "Some(" ++ quotedChar c ++ ")"
  | none => "None"

end Text

end SyscallTrace
