/-!
# Numerals

Reading integers of a fixed range from decimal text, and writing numbers in bases ten and sixteen.

A numeral is an optional sign and one or more digits, nothing else. A minus sign belongs to a
numeral only if the range has negative numbers. Digits are read one after the other: the first
character that is no digit, or the first digit that takes the value out of the range, decides the
error. The values of a configuration are numerals of several ranges (specification §11.3).
-/

namespace SyscallTrace

/-- Why a text is not a numeral of a range. -/
inductive NumeralError where
  | empty
  | invalidDigit
  | tooLarge
  | tooSmall
  deriving DecidableEq, Repr

/-- Says what is wrong with the numeral. -/
def NumeralError.message : NumeralError → String
  | .empty => "cannot parse integer from empty string"
  | .invalidDigit => "invalid digit found in string"
  | .tooLarge => "number too large to fit in target type"
  | .tooSmall => "number too small to fit in target type"

/-- The integers from `min` to `max`. -/
structure IntegerRange where
  min : Int
  max : Int
  deriving DecidableEq, Repr

namespace IntegerRange

/-- The numbers of `bits` bits. -/
def unsigned (bits : Nat) : IntegerRange := ⟨0, (1 <<< bits : Nat) - 1⟩

/-- The numbers of `bits` bits in two's complement. -/
def signed (bits : Nat) : IntegerRange :=
  ⟨-(1 <<< (bits - 1) : Nat), (1 <<< (bits - 1) : Nat) - 1⟩

/-- Reads digits after `value`, each of them moving away from zero in the direction of `sign`. -/
def readDigits (range : IntegerRange) (sign value : Int) : List Char → Except NumeralError Int
  | [] => .ok value
  | c :: cs =>
    if c.isDigit then
      let value := value * 10 + sign * (c.toNat - '0'.toNat : Nat)
      if value > range.max then .error .tooLarge
      else if value < range.min then .error .tooSmall
      else readDigits range sign value cs
    else .error .invalidDigit

/-- The integer that a text stands for. -/
def read (range : IntegerRange) : List Char → Except NumeralError Int
  | [] => .error .empty
  | ['+'] | ['-'] => .error .invalidDigit
  | '+' :: cs => range.readDigits 1 0 cs
  | '-' :: cs => if range.min < 0 then range.readDigits (-1) 0 cs else .error .invalidDigit
  | cs => range.readDigits 1 0 cs

end IntegerRange

/-- Why a text is not a truth value. -/
inductive TruthError where
  | neither
  deriving DecidableEq, Repr

/-- Says which texts are truth values. -/
def TruthError.message : TruthError → String
  | .neither => "provided string was not `true` or `false`"

/-- The truth value that a text stands for. -/
def readTruth (s : String) : Except TruthError Bool :=
  if s = "true" then .ok true else if s = "false" then .ok false else .error .neither

/-- The hexadecimal digits of a number. -/
def hexDigits (n : Nat) : String := String.ofList (Nat.toDigits 16 n)

/-- A number in base sixteen, marked as such. -/
def hexText (n : Nat) : String := "0x" ++ hexDigits n

/-- The decimal digits of a number, filled with zeros in front up to `width`. -/
def paddedDigits (width n : Nat) : String :=
  let digits := Nat.toDigits 10 n
  String.ofList (List.replicate (width - digits.length) '0' ++ digits)

/-- A list in brackets, its items joined by commas and blanks. -/
def bracketed (items : List String) : String := "[" ++ ", ".intercalate items ++ "]"

/-- The bytes of a string as a list of decimal numbers. -/
def byteListText (bs : List UInt8) : String := bracketed (bs.map fun b => toString b.toNat)

end SyscallTrace
