import SyscallTrace.Text.Numeral

/-!
# Threads

A thread is named by its id. Id 0 belongs to the kernel: it stands for "no thread" wherever a record
has to name one, and it is never suppressed. Process ids are signed, and become thread ids by sign
extension (specification §4.7, §15.4).

`ProcFile` names the files in which the system describes a process; `ProcFile.unreadable` is the
error of a file that cannot be read.
-/

namespace SyscallTrace

/-- The id of a thread. -/
structure Tid where
  raw : UInt64
  deriving DecidableEq, Repr, Inhabited

namespace Tid

/-- The kernel's own id. -/
def kernel : Tid := ⟨0⟩

/-- Whether this is the kernel's id. -/
def isKernel (t : Tid) : Bool := t.raw == 0

@[simp] theorem isKernel_iff {t : Tid} : t.isKernel = true ↔ t = kernel := by
  cases t
  simp [isKernel, kernel]

/-- The id of the first thread of a process. -/
def ofPid (pid : Int32) : Tid := ⟨pid.toInt64.toUInt64⟩

/-- The id in decimal. -/
def text (t : Tid) : String := toString t.raw.toNat

instance : Ord Tid := ⟨compareOn Tid.raw⟩

instance : Std.TransOrd Tid := inferInstanceAs (Std.TransCmp (compareOn Tid.raw))

instance : Std.LawfulEqOrd Tid where
  eq_of_compare {a b} h := by
    have h : compare a.raw b.raw = .eq := h
    cases a
    cases b
    simpa using h

end Tid

/-- A thread that was found running, and its process. -/
structure RunningThread where
  pid : Int32
  tid : Tid
  deriving DecidableEq, Repr

/-- Whether this is the first thread of its process. -/
def RunningThread.isLeader (t : RunningThread) : Bool := Tid.ofPid t.pid == t.tid

/-- A file in which the system describes a process or a thread. -/
inductive ProcFile where
  /-- The command name of a process. -/
  | processCommand (pid : Int32)
  /-- The command name of a thread. -/
  | threadCommand (thread : RunningThread)
  /-- The state of a process, its parent among it. -/
  | processStatus (pid : Int32)
  deriving DecidableEq, Repr

/-- Where the file is found. -/
def ProcFile.path : ProcFile → String
  | .processCommand pid => s!"/proc/{pid.toInt}/comm"
  | .threadCommand t => s!"/proc/{t.pid.toInt}/task/{t.tid.text}/comm"
  | .processStatus pid => s!"/proc/{pid.toInt}/status"

/-- A file that cannot be read, as when its process is gone. -/
inductive ProcFileError where
  | unreadable (file : ProcFile)
  deriving DecidableEq, Repr

/-- Names the file. -/
def ProcFileError.message : ProcFileError → String
  | .unreadable file => "reading file failed " ++ file.path

end SyscallTrace
