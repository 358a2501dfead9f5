/-!
# Options of a replay

The arguments of the command line are taken one after the other. An argument is an option in its
long form, a group of options in their short form, or a value; after two hyphens every argument is a
value. A value belongs to the option in front of it that still lacks one, and else names the capture
(specification §10).

A value takes effect when the next option or value arrives, or at the end: until then it is
`Pending`. So faults are found in the order in which values take effect, whereas an argument of the
wrong form is noticed at once.
-/

namespace SyscallTrace

/-- What is to be replayed, and how. -/
structure ReplayOptions where
  /-- The file with the records. -/
  capture : String
  /-- The file with the configuration of the suppression engine. -/
  configFile : Option String := none
  /-- Commands to denylist besides those of the configuration. -/
  commands : List String := []
  /-- Whether to look for running threads first. -/
  scanThreads : Bool := false
  /-- Whether to show suppressed records too. -/
  showSuppressed : Bool := false
  /-- How often more messages were asked for. -/
  verbosity : UInt8 := 0
  deriving DecidableEq, Repr

/-- Which messages are written. -/
inductive LogLevel where
  | info
  | debug
  | trace
  deriving DecidableEq, Repr

/-- The name of a level. -/
def LogLevel.name : LogLevel → String
  | .info => "INFO"
  | .debug => "DEBUG"
  | .trace => "TRACE"

/-- The level that was asked for. -/
def ReplayOptions.logLevel (options : ReplayOptions) : LogLevel :=
  if options.verbosity = 0 then .info else if options.verbosity = 1 then .debug else .trace

namespace CommandLine

/-- The options that take a value. -/
inductive ValueOption where
  | configFile
  | suppressCommand
  deriving DecidableEq, Repr

/-- The long form of an option, without its hyphens. -/
def ValueOption.name : ValueOption → String
  | .configFile => "config-file"
  | .suppressCommand => "suppress-comm"

/-- What the value of an option is called. -/
def ValueOption.valueName : ValueOption → String
  | .configFile => "<CONFIG_FILE>"
  | .suppressCommand => "<COMM>"

/-- The option of a long form. -/
def ValueOption.ofName? (name : String) : Option ValueOption :=
  [configFile, suppressCommand].find? (·.name == name)

/-- The options that take no value. -/
inductive Flag where
  | scanThreads
  | showSuppressed
  | verbose
  | help
  | version
  deriving DecidableEq, Repr

/-- The long form of an option, without its hyphens. -/
def Flag.name : Flag → String
  | .scanThreads => "scan-procfs"
  | .showSuppressed => "show-suppressed"
  | .verbose => "verbose"
  | .help => "help"
  | .version => "version"

/-- The option of a long form. -/
def Flag.ofName? (name : String) : Option Flag :=
  [scanThreads, showSuppressed, verbose, help, version].find? (·.name == name)

/-- The option of a letter. -/
def Flag.ofLetter? : Char → Option Flag
  | 'v' => some .verbose
  | 'h' => some .help
  | 'V' => some .version
  | _ => none

/-- What the name of the capture is called. -/
def captureName : String := "<CAPTURE>"

/-- A long form as it is written. -/
def dashed (name : String) : String := "--" ++ name

/-- An option with its value as it is written. -/
def ValueOption.pattern (option : ValueOption) : String :=
  dashed option.name ++ " " ++ option.valueName

/-- Why the arguments do not ask for a replay. -/
inductive Halt where
  /-- They ask for an explanation of the options. -/
  | help
  /-- They ask for the version. -/
  | version
  /-- An argument that is not known, or a second capture. -/
  | unknown (argument : String)
  /-- A value for an option that takes none. -/
  | excessValue (option value : String)
  /-- An option without its value, or a name of a file that is empty. -/
  | missingValue (option : String)
  /-- An option that is given more often than once. -/
  | repeated (option : String)
  /-- There is no capture. -/
  | missingCapture
  deriving DecidableEq, Repr

/-- An argument by its form. -/
inductive Argument where
  /-- Two hyphens. -/
  | separator
  /-- A long form, with a value behind an equals sign. -/
  | long (name : String) (value : Option String)
  /-- Short forms. -/
  | short (letters : List Char)
  | value (text : String)
  deriving DecidableEq, Repr

/-- The part of a long form up to the equals sign, and what is behind it. -/
def splitValue (cs : List Char) : String × Option String :=
  match cs.span (· ≠ '=') with
  | (name, _ :: value) => (String.ofList name, some (String.ofList value))
  | (name, []) => (String.ofList name, none)

/-- The form of an argument. A single hyphen is a value. -/
def Argument.ofText (text : String) : Argument :=
  match text.toList with
  | ['-', '-'] => .separator
  | '-' :: '-' :: cs => .long (splitValue cs).1 (splitValue cs).2
  | '-' :: c :: cs => .short (c :: cs)
  | _ => .value text

/-- A value that has not taken effect. -/
inductive Pending where
  | nothing
  /-- An option that lacks its value. -/
  | lacking (option : ValueOption)
  | option (option : ValueOption) (value : String)
  | capture (value : String)
  deriving DecidableEq, Repr

/-- What the arguments so far ask for. -/
structure Draft where
  capture : Option String := none
  configFile : Option String := none
  commands : List String := []
  scanThreads : Bool := false
  showSuppressed : Bool := false
  verbosity : UInt8 := 0
  pending : Pending := .nothing
  /-- Whether all further arguments are values. -/
  separated : Bool := false
  deriving DecidableEq, Repr

namespace Draft

/-- Whether the capture is named, be it that the name has not taken effect. -/
def hasCapture (d : Draft) : Bool :=
  d.capture.isSome ||
    match d.pending with
    | .capture _ => true
    | _ => false

/-- Lets the value of an option take effect. -/
def setOption (d : Draft) (option : ValueOption) (value : String) : Except Halt Draft :=
  match option with
  | .suppressCommand => .ok { d with commands := d.commands ++ [value] }
  | .configFile =>
    if d.configFile.isSome then .error (.repeated option.pattern)
    else if value = "" then .error (.missingValue option.pattern)
    else .ok { d with configFile := some value }

/-- Lets the value that is pending take effect. -/
def settle (d : Draft) : Except Halt Draft :=
  let rest := { d with pending := .nothing }
  match d.pending with
  | .nothing => .ok rest
  | .lacking option => .error (.missingValue option.pattern)
  | .option option value => rest.setOption option value
  | .capture value =>
    if value = "" then .error (.missingValue captureName)
    else .ok { rest with capture := some value }

/-- Lets an option without value take effect. -/
def setFlag (d : Draft) : Flag → Except Halt Draft
  | .help => .error .help
  | .version => .error .version
  | .verbose =>
    .ok { d with verbosity := if d.verbosity = 255 then 255 else d.verbosity + 1 }
  | .scanThreads =>
    if d.scanThreads then .error (.repeated (dashed Flag.scanThreads.name))
    else .ok { d with scanThreads := true }
  | .showSuppressed =>
    if d.showSuppressed then .error (.repeated (dashed Flag.showSuppressed.name))
    else .ok { d with showSuppressed := true }

/-- Takes a long form. -/
def takeLong (d : Draft) (name : String) (value : Option String) : Except Halt Draft := do
  match ValueOption.ofName? name, Flag.ofName? name, value with
  | some option, _, some value => (← d.settle).setOption option value
  | some option, _, none => return { (← d.settle) with pending := .lacking option }
  | none, some flag, none => (← d.settle).setFlag flag
  | none, some _, some value => .error (.excessValue (dashed name) value)
  | none, none, _ => .error (.unknown (dashed name))

/-- Takes the letters of an argument. -/
def takeShort (d : Draft) : List Char → Except Halt Draft
  | [] => .ok d
  | c :: cs =>
    match Flag.ofLetter? c with
    | none => .error (.unknown (String.ofList ['-', c]))
    | some flag => do ((← (← d.settle).setFlag flag).takeShort cs)

/-- Takes the name of the capture. -/
def takeCapture (d : Draft) (value : String) : Except Halt Draft := do
  if d.hasCapture then .error (.unknown value)
  else return { (← d.settle) with pending := .capture value }

/-- Takes a value. -/
def takeValue (d : Draft) (value : String) : Except Halt Draft :=
  match d.pending with
  | .lacking option => .ok { d with pending := .option option value }
  | _ => d.takeCapture value

/-- Takes an argument. -/
def take (d : Draft) (text : String) : Except Halt Draft :=
  if d.separated then d.takeCapture text
  else
    match Argument.ofText text with
    | .separator => .ok { d with separated := true }
    | .long name value => d.takeLong name value
    | .short letters => d.takeShort letters
    | .value text => d.takeValue text

/-- What all the arguments ask for. -/
def finish (d : Draft) : Except Halt ReplayOptions := do
  let d ← d.settle
  match d.capture with
  | none => .error .missingCapture
  | some capture =>
    return {
      capture
      configFile := d.configFile
      commands := d.commands
      scanThreads := d.scanThreads
      showSuppressed := d.showSuppressed
      verbosity := d.verbosity }

end Draft

/-- What the arguments of a command line ask for. -/
def parse (arguments : List String) : Except Halt ReplayOptions := do
  (← arguments.foldlM Draft.take {}).finish

end CommandLine

end SyscallTrace
