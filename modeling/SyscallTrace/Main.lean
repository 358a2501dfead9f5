import SyscallTrace.Replay.Basic
import SyscallTrace.Replay.Usage

/-!
# The command line

Reads the files and the running threads that a replay asks for, and prints what it shows. The exit
code is 0 if all records were decoded, 2 if some were not or the arguments are wrong, and 1 if there
was no replay (specification §10).
-/

namespace SyscallTrace

namespace CommandLine

/-- The fault of the system in an error of reading. The number of the error may be negated. -/
def faultOf : IO.Error → FileFault
  | .noFileOrDirectory _ _ _ => .missing
  | .permissionDenied _ code reason | .inappropriateType _ code reason
  | .invalidArgument _ code reason | .noSuchThing _ code reason
  | .resourceExhausted _ code reason | .alreadyExists _ code reason | .interrupted _ code reason
  | .otherError code reason | .resourceBusy code reason | .resourceVanished code reason
  | .unsupportedOperation code reason | .hardwareFault code reason
  | .unsatisfiedConstraints code reason | .illegalOperation code reason
  | .protocolError code reason | .timeExpired code reason => ⟨reason, code.toInt32.toInt.natAbs⟩
  | .unexpectedEof => ⟨"unexpected end of file", 0⟩
  | .userError reason => ⟨reason, 0⟩

/-- The contents of a file. -/
def readContents (path : String) : IO (Except FileFault Bytes) := do
  try
    return .ok (← IO.FS.readBinFile path).toList
  catch e =>
    return .error (faultOf e)

/-- The names in a directory that are numbers of a range. -/
def numbersIn (range : IntegerRange) (path : String) : IO (List Int) := do
  try
    let entries ← (← IO.FS.realPath path).readDir
    return entries.toList.filterMap fun entry => (range.read entry.fileName.toList).toOption
  catch _ =>
    return []

/-- A running thread, unless it is gone. -/
def scanThread (parent : Option Int32) (thread : RunningThread) : IO (Option ScannedThread) := do
  match ← readContents (ProcFile.threadCommand thread).path with
  | .error _ => return none
  | .ok contents =>
    return (ScannedThread.commandOf contents).map (ScannedThread.ofThread thread · parent)

/-- The running threads of a process. -/
def scanProcess (pid : Int32) : IO (List ScannedThread) := do
  let status ← readContents (ProcFile.processStatus pid).path
  let parent := status.toOption.bind ScannedThread.parentOf
  let tids ← numbersIn (.unsigned 64) s!"/proc/{pid.toInt}/task"
  tids.filterMapM fun tid => scanThread parent { pid, tid := ⟨UInt64.ofNat tid.toNat⟩ }

/-- All running threads. -/
def scanThreads : IO (List ScannedThread) := do
  let pids ← numbersIn (.signed 32) "/proc"
  return (← pids.mapM fun pid => scanProcess (Int32.ofInt pid)).flatten

/-- Replays a capture and prints what is shown of it. -/
def replay (options : ReplayOptions) : IO UInt32 := do
  let paths := options.capture :: options.configFile.toList
  let contents ← paths.mapM fun path => do return (path, ← readContents path)
  let threads ← if options.scanThreads then scanThreads else pure []
  let files (path : String) : Except FileFault Bytes :=
    (contents.lookup path).getD (.error .missing)
  match options.run files threads with
  | .error e =>
    IO.eprintln s!"[ERROR] {e.message}"
    return 1
  | .ok r =>
    for line in r.output do
      IO.println line
    if r.isClean then return 0
    IO.eprintln s!"[WARN ] {r.stats.decodeErrors.toNat} records failed to decode"
    return 2

/-- Does what the arguments ask for. -/
def run (arguments : List String) : IO UInt32 := do
  match parse arguments with
  | .ok options => replay options
  | .error halt =>
    if halt.isAnswer then
      IO.println halt.text
      return 0
    else
      IO.eprintln halt.text
      return 2

end CommandLine

end SyscallTrace

/-- Runs the program. -/
def main (arguments : List String) : IO UInt32 := SyscallTrace.CommandLine.run arguments
