/-!
# Blank characters

The characters with the Unicode property `White_Space`. Texts are trimmed of them at both ends;
inside a text they stay. The items of a list in a configuration are trimmed (specification §11.3).
-/

namespace SyscallTrace

namespace Text

/-- A character with the property `White_Space`. -/
def isBlank (c : Char) : Bool :=
  let n := c.toNat
  (0x9 ≤ n && n ≤ 0xD) || n == 0x20 || n == 0x85 || n == 0xA0 || n == 0x1680 ||
    (0x2000 ≤ n && n ≤ 0x200A) || n == 0x2028 || n == 0x2029 || n == 0x202F || n == 0x205F ||
    n == 0x3000

/-- A text without the blanks at its end. -/
def trimEnd (cs : List Char) : List Char := (cs.reverse.dropWhile isBlank).reverse

/-- A text without the blanks at its two ends. -/
def trim (cs : List Char) : List Char := trimEnd (cs.dropWhile isBlank)

@[simp] theorem trim_nil : trim [] = [] := rfl

end Text

end SyscallTrace
