import SyscallTrace.Suppression.Builder
import SyscallTrace.Text.Blank

/-!
# Running threads

What the system tells about a thread that is already running, and how it hangs in the lineage: the
first thread of a process below the process that started it, every other one below the first
(specification §15.4).
-/

namespace SyscallTrace

/-- A running thread with its place in the lineage. -/
structure ScannedThread where
  tid : Tid
  parent : Tid
  command : String
  deriving DecidableEq, Repr

namespace ScannedThread

/-- The command name in the file of a thread, without the end of its line. -/
def commandOf (contents : Bytes) : Option String :=
  match Utf8.decode contents with
  | .ok text => some (String.ofList (text.reverse.dropWhile (· = '\n')).reverse)
  | .error _ => none

/-- What a line of a status file begins with if it names the parent. -/
def parentLabel : List Char := "PPid:".toList

/-- The parent in the status file of a process. -/
def parentOf (contents : Bytes) : Option Int32 := do
  let lines := (Utf8.decodeLossy contents).splitOn '\n'
  let line ← lines.find? parentLabel.isPrefixOf
  match (IntegerRange.signed 32).read (Text.trim (line.drop parentLabel.length)) with
  | .ok pid => some (Int32.ofInt pid)
  | .error _ => none

/-- A thread with its command, given the parent of its process if that is known. -/
def ofThread (thread : RunningThread) (command : String) (parent : Option Int32) :
    ScannedThread where
  tid := thread.tid
  parent :=
    if thread.isLeader then (parent.map Tid.ofPid).getD .kernel else .ofPid thread.pid
  command := command

end ScannedThread

/-- Notes all threads found by the scan. -/
def SuppressionBuilder.observeAll (b : SuppressionBuilder) (threads : List ScannedThread) :
    SuppressionBuilder :=
  threads.foldl (fun b t => (b.observe t.tid t.parent t.command).2) b

end SyscallTrace
