import SyscallTrace.Text.Ligature

/-!
# Column widths

How many columns a text takes in a terminal. Characters that are drawn as one sign or one picture
take its columns together, so a text is read from its end (`width`): what a character adds is
found from what follows it (`Following.step`).

A character that is not drawn with what follows it adds its own columns. Otherwise it adds the
difference that it makes, which may be negative.
-/

namespace SyscallTrace

namespace Text

/-- What a text begins with, as far as a character before it can be drawn with it. -/
inductive Front
  /-- Nothing that is drawn with what is before it. -/
  | other
  /-- The last letter of a sign, and whether a joiner is before it. -/
  | letter (last : LastLetter) (joined : Bool)
  /-- An Arabic alef. -/
  | alef
  /-- The vowel sign e of Kirat Rai. -/
  | vowelE
  /-- The vowel sign ai of Kirat Rai, which is two signs e. -/
  | vowelAi
  /-- A modifier. -/
  | modifier
  /-- An emoji. -/
  | emoji
  /-- So many regional indicators, and whether an emoji is joined to them. -/
  | indicators (joined : Bool) (count : Nat)
  /-- A joiner and an emoji. -/
  | joinedEmoji
  /-- The frame of a key, and an emoji joined to it. -/
  | joinedKeycap
  /-- The last letters and digits of the name of a flag, and an emoji joined to it. The digits are
  before the letters. -/
  | joinedName (letters digits : Nat)
  deriving DecidableEq, Repr

namespace Front

/-- What a character is at the front of a text. -/
def ofChar (c : Char) : Front :=
  match LastLetter.ofChar? c with
  | some last => letter last false
  | none =>
    if isAlef c then alef
    else if c.toNat = 0x16D67 then vowelE
    else if c.toNat = 0x16D68 then vowelAi
    else if isIndicator c then indicators false 1
    else if isModifier c then modifier
    else if isEmoji c then emoji
    else other

/-- The letters of a sign stay together when a selector stands between them. -/
def isLetter : Front → Bool
  | letter _ _ | alef => true
  | _ => false

/-- An emoji is joined to what comes before. -/
def isJoined : Front → Bool
  | joinedEmoji | joinedKeycap => true
  | _ => false

/-! ## What a character adds

Each family of signs tells how many columns a character adds before a front that belongs to it,
and the front of the text that begins with the character. It tells nothing of a character that is
not drawn with the front. -/

/-- Letters: the signs of `LastLetter`, and the Arabic lam with alef. -/
def letterStep (c : Char) : Front → Option (Int × Front)
  | letter last joined =>
    if isJoiner c then some (0, letter last true)
    else if isUnseenMark c then some (0, letter last joined)
    else (last.extend joined c).map fun (n, rest) => (n, (rest.map (letter · false)).getD other)
  | alef =>
    if isLam c then some (0, other)
    else if isTransparent c then some (0, alef)
    else none
  | _ => none

/-- Vowels of Kirat Rai: the signs that are made of `e`, `ai`, `aa` and `o`. -/
def vowelStep (c : Char) : Front → Option (Int × Front)
  | vowelE =>
    if c.toNat = 0x16D67 then some (0, vowelAi)
    else if c.toNat = 0x16D68 then some (1, vowelE)
    else if c.toNat = 0x16D63 || c.toNat = 0x16D69 then some (0, other)
    else none
  | vowelAi => if c.toNat = 0x16D63 then some (0, other) else none
  | _ => none

/-- A joiner before an emoji. -/
def joinStep (c : Char) : Option (Int × Front) :=
  if isJoiner c then some (0, joinedEmoji) else none

/-- Emoji: modifiers, flags and joined pictures. A picture has two columns however many emoji it
is joined of. -/
def emojiStep (c : Char) : Front → Option (Int × Front)
  | modifier => if isModifiable c then some (0, emoji) else joinStep c
  | emoji => joinStep c
  | indicators joined count =>
    if isIndicator c then
      some (if !joined then 1 else if count % 2 = 1 then -1 else 3, indicators joined (count + 1))
    else if 2 ≤ count then joinStep c
    else none
  | joinedEmoji =>
    if isKeycap c then some (0, joinedKeycap)
    else if isIndicator c then some (1, indicators true 1)
    else if isModifier c then some (0, modifier)
    else if isTagEnd c then some (0, joinedName 0 0)
    else if isEmoji c then some (0, emoji)
    else none
  | joinedName letters digits =>
    if isTagLetter c && letters < 6 && digits == 0 then some (0, joinedName (letters + 1) 0)
    else if isTagDigit c && letters ≤ 4 && digits < 3 then
      some (0, joinedName letters (digits + 1))
    else if isBlackFlag c && (digits == 3 || (3 ≤ letters && digits == 0)) then some (0, emoji)
    else none
  | _ => none

/-- What a character adds to the columns of a text, and the front of the longer text. -/
def step (c : Char) (front : Front) : Int × Front :=
  match letterStep c front <|> vowelStep c front <|> emojiStep c front with
  | some result => result
  | none => (columns c, ofChar c)

end Front

/-- What a text begins with: its front, and a selector that may stand before it. -/
structure Following where
  front : Front
  selected : Option Look
  deriving DecidableEq, Repr

namespace Following

/-- The end of a text. -/
def nothing : Following := ⟨.other, none⟩

/-- A selector that does nothing is left out. Letters are then as before, but it has parted all
else. -/
def unselected (f : Following) : Following :=
  if f.selected.isNone || f.front.isLetter then ⟨f.front, none⟩ else nothing

/-- A selector before a text. -/
def select (look : Look) (f : Following) : Following :=
  if f.front.isLetter || (look == .emoji && f.front.isJoined) then ⟨f.front, some look⟩
  else ⟨.other, some look⟩

/-- What a character adds to the columns of a text, and what the longer text begins with. -/
def step (c : Char) (f : Following) : Int × Following :=
  if f.selected == some .emoji && isSelectable c then
    (if f.front.isJoined then 0 else 2, ⟨.emoji, none⟩)
  else if f.selected == some .text && isNarrowAsText c then (1, nothing)
  else
    match selectedLook c with
    | some look => (0, f.unselected.select look)
    | none =>
      let (n, front) := f.unselected.front.step c
      (n, ⟨front, none⟩)

end Following

/-- The columns of a text, read from its end, and what it begins with. -/
def measure (cs : List Char) : Int × Following :=
  cs.foldr (fun c (sum, f) => let (n, g) := f.step c; (n + sum, g)) (0, .nothing)

/-- The number of columns of a text. -/
def width (s : String) : Nat := (measure s.toList).1.toNat

end Text

end SyscallTrace
