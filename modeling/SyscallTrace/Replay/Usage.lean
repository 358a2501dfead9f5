import SyscallTrace.Replay.Options

/-!
# Explaining the options

What is written when the arguments of the command line do not ask for a replay (specification §10).
-/

namespace SyscallTrace

namespace CommandLine

/-- The name of the program. -/
def programName : String := "syscall-trace-replay"

/-- The version of the program. -/
def programVersion : String := "0.9.0"

/-- How the program is called. -/
def usage : String := s!"Usage: {programName} [OPTIONS] {captureName}"

/-- The explanation of all arguments. -/
def helpText : String :=
  "\n".intercalate [
    "Decode a capture of syscall records and apply thread suppression",
    "",
    usage,
    "",
    "Arguments:",
    "  <CAPTURE>  File holding concatenated records",
    "",
    "Options:",
    "      --config-file <CONFIG_FILE>  INI file with a `[suppression]` section",
    "      --suppress-comm <COMM>       Command names to suppress, on top of the configuration",
    "      --scan-procfs                Load the lineage of the threads running on this machine",
    "      --show-suppressed            Print suppressed records too",
    "  -v, --verbose...                 Pass many times for a more verbose output. Passing `-v` " ++
      "adds debug logs, `-vv` enables trace logging",
    "  -h, --help                       Print help",
    "  -V, --version                    Print version"]

/-- Whether the program did what was asked for when it stopped. -/
def Halt.isAnswer : Halt → Bool
  | .help | .version => true
  | _ => false

/-- Says what is wrong with the arguments. -/
def Halt.complaint : Halt → String
  | .help | .version => ""
  | .unknown argument => s!"unexpected argument '{argument}' found"
  | .excessValue option value =>
    s!"unexpected value '{value}' for '{option}' found; no more were expected"
  | .missingValue option => s!"a value is required for '{option}' but none was supplied"
  | .repeated option => s!"the argument '{option}' cannot be used multiple times"
  | .missingCapture => s!"the following required arguments were not provided:\n  {captureName}"

/-- What is written. -/
def Halt.text : Halt → String
  | .help => helpText
  | .version => s!"{programName} {programVersion}"
  | halt => s!"error: {halt.complaint}\n\n{usage}\n\nFor more information, try '--help'."

end CommandLine

end SyscallTrace
