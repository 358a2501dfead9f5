import SyscallTrace.Text.Columns
import SyscallTrace.Text.Emoji

/-!
# Ligatures

The letters of some scripts that are drawn as one sign when they stand side by side. A sign is
found from its last letter (`LastLetter`): the letters before it are tried one after the other
(`LastLetter.extend`). Marks that are not seen may stand between them, and some signs are only
made by a joiner there.
-/

namespace SyscallTrace

namespace Text

/-! ## Classes of letters -/

/-- The Arabic letters of the joining group of lam. -/
def lamRanges : List (Nat × Nat) :=
  [(0x644, 0x644), (0x6B5, 0x6B8), (0x76A, 0x76A), (0x8A6, 0x8A6), (0x8C7, 0x8C7)]

/-- The Arabic letters of the joining group of alef. -/
def alefRanges : List (Nat × Nat) :=
  [(0x622, 0x623), (0x625, 0x625), (0x627, 0x627), (0x671, 0x673), (0x675, 0x675), (0x773, 0x774),
    (0x870, 0x882)]

/-- The consonants of Tifinagh that can be joined. -/
def isTifinaghConsonant (c : Char) : Bool := inRanges [(0x2D31, 0x2D65), (0x2D6F, 0x2D6F)] c.toNat

/-- The sign that joins two consonants of Tifinagh. -/
def isTifinaghJoiner (c : Char) : Bool := c.toNat == 0x2D7F

/-- The letters of Khmer that have a form below the line. -/
def khmerSubscriptRanges : List (Nat × Nat) :=
  [(0x1780, 0x1782), (0x1784, 0x1787), (0x1789, 0x178C), (0x178E, 0x1793), (0x1795, 0x1798),
    (0x179B, 0x179D), (0x17A0, 0x17A0), (0x17A2, 0x17A2), (0x17A7, 0x17A7), (0x17AB, 0x17AC),
    (0x17AF, 0x17AF)]

/-- The characters without columns that part the Arabic letters around them: their joining type
is not `Transparent`. -/
def partingRanges : List (Nat × Nat) :=
  [(0x605, 0x605), (0x890, 0x891), (0x8E2, 0x8E2), (0x9BE, 0x9BE), (0x9D7, 0x9D7), (0xB3E, 0xB3E),
    (0xB57, 0xB57), (0xBBE, 0xBBE), (0xBD7, 0xBD7), (0xCC0, 0xCC0), (0xCC2, 0xCC2), (0xCC7, 0xCC8),
    (0xCCA, 0xCCB), (0xCD5, 0xCD6), (0xD3E, 0xD3E), (0xD4E, 0xD4E), (0xD57, 0xD57), (0xDCF, 0xDCF),
    (0xDDF, 0xDDF), (0x1160, 0x11FF), (0x1715, 0x1715), (0x1734, 0x1734), (0x180E, 0x180E),
    (0x1B35, 0x1B35), (0x1B3B, 0x1B3B), (0x1B3D, 0x1B3D), (0x1B43, 0x1B44), (0x1BAA, 0x1BAA),
    (0x1BF2, 0x1BF3), (0x200C, 0x200D), (0x2065, 0x2069), (0x302E, 0x302F), (0x3164, 0x3164),
    (0xA8FA, 0xA8FA), (0xA953, 0xA953), (0xA9C0, 0xA9C0), (0xD7B0, 0xD7C6), (0xD7CB, 0xD7FB),
    (0xFFA0, 0xFFA0), (0xFFF0, 0xFFF8), (0x111C0, 0x111C0), (0x111C2, 0x111C3), (0x11235, 0x11235),
    (0x1133E, 0x1133E), (0x1134D, 0x1134D), (0x11357, 0x11357), (0x113B8, 0x113B8),
    (0x113C2, 0x113C2), (0x113C5, 0x113C5), (0x113C7, 0x113C9), (0x113CF, 0x113CF),
    (0x113D1, 0x113D1), (0x114B0, 0x114B0), (0x114BD, 0x114BD), (0x115AF, 0x115AF),
    (0x116B6, 0x116B6), (0x11930, 0x11930), (0x1193D, 0x1193D), (0x1193F, 0x1193F),
    (0x11941, 0x11941), (0x11A84, 0x11A89), (0x11D46, 0x11D46), (0x11F02, 0x11F02),
    (0x11F41, 0x11F41), (0x16FF0, 0x16FF1), (0x1D165, 0x1D166), (0x1D16D, 0x1D172),
    (0xE0000, 0xE0000), (0xE0002, 0xE001F), (0xE0080, 0xE00FF), (0xE01F0, 0xE0FFF)]

/-- A letter of the joining group of lam. -/
def isLam (c : Char) : Bool := inRanges lamRanges c.toNat

/-- A letter of the joining group of alef. -/
def isAlef (c : Char) : Bool := inRanges alefRanges c.toNat

/-- A mark that can stand between two Arabic letters that are drawn as one. -/
def isTransparent (c : Char) : Bool := columns c == 0 && !inRanges partingRanges c.toNat

/-- The ignorable marks, which are not seen between the letters of a sign. -/
def isUnseenMark (c : Char) : Bool :=
  inRanges [(0x34F, 0x34F), (0x17B4, 0x17B5), (0x180B, 0x180D), (0x180F, 0x180F),
    (0xFE00, 0xFE0F), (0xE0100, 0xE01EF)] c.toNat

/-! ## Signs from their last letter -/

/-- What the rest of a sign begins with. -/
inductive LastLetter
  /-- The lamed of Hebrew, of which alef makes a sign. -/
  | lamed
  /-- The ya of Buginese, of which the letter a with the vowel i makes a sign. -/
  | ya
  /-- That vowel, and the ya joined to it. -/
  | vowelYa
  /-- A consonant of Tifinagh, of which another one makes a sign. -/
  | consonant
  /-- The sign that joins two consonants of Tifinagh, and the second one. -/
  | joinedConsonant
  /-- The second of two tone letters of Lisu. -/
  | tone
  /-- The letter i of Old Turkic, of which the letter ec makes a sign. -/
  | orkhonI
  /-- A letter of Khmer, which the sign coeng moves below the line. -/
  | subscript
  deriving DecidableEq, Repr

namespace LastLetter

/-- The last letter that a character can be. -/
def ofChar? (c : Char) : Option LastLetter :=
  if c.toNat = 0x5DC then some .lamed
  else if c.toNat = 0x1A10 then some .ya
  else if isTifinaghConsonant c then some .consonant
  else if inRanges [(0xA4FC, 0xA4FD)] c.toNat then some .tone
  else if c.toNat = 0x10C03 then some .orkhonI
  else if inRanges khmerSubscriptRanges c.toNat then some .subscript
  else none

/-- What a character adds to the columns when it makes a sign of what follows it, and what the
sign begins with then, or nothing when it is complete. `joined` tells of a joiner between the
two. -/
def extend (joined : Bool) (c : Char) : LastLetter → Option (Int × Option LastLetter)
  | lamed => if joined && c.toNat == 0x5D0 then some (0, none) else none
  | ya => if joined && c.toNat == 0x1A17 then some (0, some vowelYa) else none
  | vowelYa => if c.toNat = 0x1A15 then some (0, none) else none
  | consonant =>
    if isTifinaghJoiner c then some (1, some joinedConsonant)
    else if joined && isTifinaghConsonant c then some (0, none)
    else none
  | joinedConsonant => if isTifinaghConsonant c then some (-1, none) else none
  | tone => if inRanges [(0xA4F8, 0xA4FB)] c.toNat then some (0, none) else none
  | orkhonI => if joined && c.toNat == 0x10C32 then some (0, none) else none
  | subscript => if c.toNat = 0x17D2 then some (-1, none) else none

end LastLetter

end Text

end SyscallTrace
