import SyscallTrace.File
import SyscallTrace.Text.Blank
import SyscallTrace.Text.Quoted
import SyscallTrace.Text.Utf8

/-!
# Sectioned configuration files

A configuration file is a sequence of sections. Each has a heading in brackets and then keys with
values, joined by an equals sign or a colon; entries before the first heading belong to a section
that has no name. Blanks between these items do not matter (specification §11.3).

- A heading runs to the closing bracket and a key to its sign, across lines if need be.
- A value runs to the end of its line. If it starts with a quote, everything up to the next quote of
  that kind belongs to it as well, and the rest of that line is added.
- A semicolon or a hash sign in the first column makes the line a comment. Further to the right it
  is refused where an item could start, and is an ordinary character everywhere else.
- A backslash starts an escape. `\0`, `\a`, `\b`, `\t`, `\r` and `\n` are control characters, `\x`
  and four hexadecimal digits are the character of that number, a backslash at the end of a line
  hides that end, and any other character stands for itself.

Headings, keys and values are trimmed of blanks.

The reader takes one character after the other. `Ini.Phase` says what the characters so far have
left open, `Ini.State.step` takes one more, and `Ini.State.finish` is the end of the text. An error
comes with the line and the column at which it was noticed.
-/

namespace SyscallTrace

/-- A section: its name, if it has one, and its entries in their order. -/
structure IniSection where
  name : Option String
  entries : List (String × String) := []
  deriving DecidableEq, Repr

/-- The sections of a configuration file in their order. -/
structure Ini where
  sections : List IniSection
  deriving DecidableEq, Repr

/-- The entries of the first section of a name, none if there is no such section. -/
def Ini.entries (ini : Ini) (name : String) : List (String × String) :=
  match ini.sections.find? (·.name == some name) with
  | some found => found.entries
  | none => []

/-- A place in a text. Lines are counted from zero, and so is the character before a line. -/
structure Position where
  line : Nat := 0
  column : Nat := 0
  deriving DecidableEq, Repr

/-- The place of a character that follows one at a given place. -/
def Position.advance (p : Position) (c : Char) : Position :=
  if c = '\n' then { line := p.line + 1 } else { p with column := p.column + 1 }

/-- The place in words. -/
def Position.text (p : Position) : String := s!"{p.line + 1}:{p.column + 1}"

namespace Ini

/-- Why a text is not a configuration file. -/
inductive Fault where
  /-- A comment that does not start in the first column. -/
  | indentedComment
  /-- A sign with no key in front of it. -/
  | missingKey
  /-- The text ends before one of the characters that are expected, where `none` is the end. -/
  | unterminated (expected : List (Option Char))
  /-- An escape with a number that belongs to no character. -/
  | unknownCharacter
  /-- A backslash among the digits of an escape, with something other than the end of a line
  behind it. -/
  | brokenCode (found : Option Char)
  deriving DecidableEq, Repr

/-- Says what is wrong. -/
def Fault.message : Fault → String
  | .indentedComment => "doesn't support inline comment"
  | .missingKey => "missing key"
  | .unterminated expected =>
    "expecting \"" ++ bracketed (expected.map Text.optionalChar) ++ "\" but found EOF."
  | .unknownCharacter => "unknown character in \\xHH form"
  | .brokenCode found => "expecting \"\\\\n\" but found \"" ++ Text.optionalChar found ++ "\"."

/-- What a text that is being read will become. -/
inductive Slot where
  | heading
  | key
  /-- The quoted part of a value. -/
  | quoted (key : String) (quote : Char)
  /-- The part of a value up to the end of its line, with the quoted part, last character first. -/
  | line (key : String) (before : List Char)
  deriving DecidableEq, Repr

/-- What ends the text, where `none` is the end of the file. -/
def Slot.ends : Slot → List (Option Char)
  | .heading => [some ']']
  | .key => [some '=', some ':']
  | .quoted _ quote => [some quote]
  | .line _ _ => [some '\n', some '\r', none]

/-- How much of an escape was read. -/
inductive Escape where
  /-- There is no escape. -/
  | outside
  /-- The backslash. -/
  | begun
  /-- Some digits of a number, last digit first. -/
  | code (digits : List Char)
  /-- Some digits of a number, and a backslash. -/
  | brokenCode (digits : List Char)
  deriving DecidableEq, Repr

/-- What the characters so far have left open. -/
inductive Phase where
  /-- Nothing: the next item may start. -/
  | item
  | comment
  /-- The sign behind a key was read, and perhaps blanks. -/
  | value (key : String)
  /-- A text with what was read of it, last character first. -/
  | text (slot : Slot) (escape : Escape) (done : List Char)
  deriving DecidableEq, Repr

/-- What was read so far. -/
structure State where
  /-- The place of the last character. -/
  position : Position := {}
  phase : Phase := .item
  /-- The finished sections, last section first. -/
  finished : List IniSection := []
  /-- The name of the section that is being read. -/
  name : Option String := none
  /-- Its entries, last entry first. -/
  entries : List (String × String) := []
  deriving DecidableEq, Repr

/-- A text that was read, last character first, without the blanks at its ends. -/
def trimmed (done : List Char) : String := String.ofList (Text.trim done.reverse)

/-- The value of a hexadecimal digit. -/
def digitValue? (c : Char) : Option Nat :=
  if '0' ≤ c ∧ c ≤ '9' then some (c.toNat - '0'.toNat)
  else if 'a' ≤ c ∧ c ≤ 'f' then some (c.toNat - 'a'.toNat + 10)
  else if 'A' ≤ c ∧ c ≤ 'F' then some (c.toNat - 'A'.toNat + 10)
  else none

/-- The number that hexadecimal digits stand for. -/
def codeValue? (digits : List Char) : Option Nat :=
  digits.foldlM (fun n c => (digitValue? c).map (n * 16 + ·)) 0

/-- The character of the number in an escape. The number may have a plus sign. -/
def codeChar? (code : List Char) : Option Char := do
  let n ← codeValue? (if code.head? = some '+' then code.tail else code)
  if Nat.isValidChar n then some (Char.ofNat n) else none

/-- The character that a letter behind a backslash stands for, if it is not the letter itself. -/
def escaped (c : Char) : Char :=
  match c with
  | '0' => '\x00'
  | 'a' => '\x07'
  | 'b' => '\x08'
  | 't' => '\t'
  | 'r' => '\r'
  | 'n' => '\n'
  | c => c

/-- A text with one more digit of an escape. The fourth one completes it. -/
def addDigit (slot : Slot) (done digits : List Char) (c : Char) : Except Fault Phase :=
  let digits := c :: digits
  if digits.length < 4 then .ok (.text slot (.code digits) done)
  else
    match codeChar? digits.reverse with
    | some c => .ok (.text slot .outside (c :: done))
    | none => .error .unknownCharacter

/-- A text with one more character, which does not end it. -/
def addChar (slot : Slot) (escape : Escape) (done : List Char) (c : Char) : Except Fault Phase :=
  match escape with
  | .outside => .ok (if c = '\\' then .text slot .begun done else .text slot .outside (c :: done))
  | .begun =>
    if c = 'x' then .ok (.text slot (.code []) done)
    else if c = '\n' then .ok (.text slot .outside done)
    else .ok (.text slot .outside (escaped c :: done))
  | .code digits =>
    if c = '\\' then .ok (.text slot (.brokenCode digits) done)
    else addDigit slot done digits c
  | .brokenCode digits =>
    if c = '\n' then addDigit slot done digits '\\' else .error (.brokenCode (some c))

namespace State

/-- Starts a section. -/
def startSection (s : State) (name : String) : State :=
  { s with
    finished := { name := s.name, entries := s.entries.reverse } :: s.finished
    name := some name
    entries := []
    phase := .item }

/-- Adds an entry to the section that is being read. -/
def add (s : State) (key value : String) : State :=
  { s with entries := (key, value) :: s.entries, phase := .item }

/-- Goes on after a text that the character at its end completes. -/
def complete (s : State) (slot : Slot) (done : List Char) : Except Fault State :=
  match slot with
  | .heading => .ok (s.startSection (trimmed done))
  | .key =>
    if trimmed done = "" then .error .missingKey
    else .ok { s with phase := .value (trimmed done) }
  | .quoted key _ => .ok { s with phase := .text (.line key done) .outside [] }
  | .line key before => .ok (s.add key (trimmed (done ++ before)))

/-- Takes a character that belongs to a text. -/
def stepText (s : State) (slot : Slot) (escape : Escape) (done : List Char) (c : Char) :
    Except Fault State :=
  if escape = .outside ∧ some c ∈ slot.ends then s.complete slot done
  else return { s with phase := ← addChar slot escape done c }

/-- Takes the first character behind an item. -/
def stepItem (s : State) (c : Char) : Except Fault State :=
  if Text.isBlank c then .ok s
  else if c = ';' ∨ c = '#' then
    if s.position.column > 1 then .error .indentedComment else .ok { s with phase := .comment }
  else if c = '[' then .ok { s with phase := .text .heading .outside [] }
  else if c = '=' ∨ c = ':' then .error .missingKey
  else s.stepText .key .outside [] c

/-- Takes a character, of which the place is known. -/
def stepHere (s : State) (c : Char) : Except Fault State :=
  match s.phase with
  | .item => s.stepItem c
  | .comment => .ok (if c = '\n' then { s with phase := .item } else s)
  | .value key =>
    if c = '"' ∨ c = '\'' then .ok { s with phase := .text (.quoted key c) .outside [] }
    else if Text.isBlank c ∧ c ≠ '\n' ∧ c ≠ '\r' then .ok s
    else s.stepText (.line key []) .outside [] c
  | .text slot escape done => s.stepText slot escape done c

/-- Takes a character. -/
def step (s : State) (c : Char) : Except (Position × Fault) State :=
  let s := { s with position := s.position.advance c }
  (s.stepHere c).mapError (s.position, ·)

/-- The sections that were read. -/
def result (s : State) : Ini :=
  ⟨({ name := s.name, entries := s.entries.reverse } :: s.finished).reverse⟩

/-- Ends the text. -/
def finishHere (s : State) : Except Fault State :=
  match s.phase with
  | .item | .comment => .ok s
  | .value key => .ok (s.add key "")
  | .text _ (.brokenCode _) _ => .error (.brokenCode none)
  | .text slot .outside done =>
    if none ∈ slot.ends then s.complete slot done else .error (.unterminated slot.ends)
  | .text slot _ _ => .error (.unterminated slot.ends)

/-- The sections of a text that ends here. -/
def finish (s : State) : Except (Position × Fault) Ini :=
  (s.finishHere.map result).mapError (s.position, ·)

end State

/-- The sections of a text. -/
def parse (text : List Char) : Except (Position × Fault) Ini := do
  (← text.foldlM State.step {}).finish

/-- Why a configuration file cannot be read. -/
inductive LoadFault where
  | file (fault : FileFault)
  /-- The contents are no text. -/
  | notText
  | grammar (position : Position) (fault : Fault)
  deriving DecidableEq, Repr

/-- Says what is wrong. -/
def LoadFault.message : LoadFault → String
  | .file fault => fault.message
  | .notText => "stream did not contain valid UTF-8"
  | .grammar position fault => position.text ++ " " ++ fault.message

/-- The mark that may stand in front of a text in UTF-8. -/
def byteOrderMark : Bytes := [0xEF, 0xBB, 0xBF]

/-- The sections of a file with the given contents. -/
def ofBytes (contents : Bytes) : Except LoadFault Ini :=
  let contents := if byteOrderMark.isPrefixOf contents then contents.drop 3 else contents
  match Utf8.decode contents with
  | .error _ => .error .notText
  | .ok text => (parse text).mapError fun (position, fault) => .grammar position fault

/-- The sections of a file, if the system gives its contents. -/
def ofFile (contents : Except FileFault Bytes) : Except LoadFault Ini :=
  match contents with
  | .error fault => .error (.file fault)
  | .ok contents => ofBytes contents

end Ini

end SyscallTrace
