import SyscallTrace.Record.Decode
import SyscallTrace.Suppression.Lineage

/-!
# Suppression

Some threads are of no interest: monitoring agents, and all that they start. An `Engine` holds the
commands that are denylisted and the threads that are suppressed, and decides for one record after
the other whether it is passed on (specification §4.7, §15.4).

A thread becomes suppressed when a lineage event names a suppressed parent or a denylisted
command. It stays so until its end is recorded. The kernel is never suppressed.

- `Engine.process`: the verdict on a record, and the engine behind it.
- `Engine.mem_tids_suppress`, `Engine.isSuppressed_suppress`: what suppressing a thread means for
  it and for all others.
-/

namespace SyscallTrace

/-- What becomes of a record. -/
inductive Verdict where
  | pass
  | suppress
  deriving DecidableEq, Repr

/-- What a lineage event tells of its thread. -/
structure Ancestry where
  parent : Tid
  command : String
  deriving DecidableEq, Repr

/-- What a record tells of its thread, if it has as many parameters as that takes. A parent that
is absent is the kernel; bytes of the command that are no text are replaced. -/
def Ancestry.ofRecord? (record : Record) : Option Ancestry :=
  if record.size ≤ EventType.commandIndex then none
  else
    match record.param EventType.parentIndex >>= Param.signed? with
    | .error _ => none
    | .ok parent =>
      match record.param EventType.commandIndex with
      | .error _ => none
      | .ok param => some {
          parent := ⟨(parent.getD 0).toUInt64⟩
          command := Utf8.lossyText (Bytes.beforeNul param.data) }

/-- The suppressed threads, and the commands that make a thread suppressed. -/
structure Engine where
  commands : Std.ExtTreeSet String := ∅
  tids : TidSet := ∅
  /-- The number of records that were not passed on. -/
  suppressed : UInt64 := 0

namespace Engine

/-- Nothing is denylisted and nobody suppressed. -/
def empty : Engine := {}

/-- Denylists a command. -/
def addCommand (e : Engine) (command : String) : Engine :=
  { e with commands := e.commands.insert command }

/-- Takes all commands off the denylist. -/
def clearCommands (e : Engine) : Engine := { e with commands := ∅ }

/-- Suppresses a thread, unless it is the kernel. -/
def suppress (e : Engine) (tid : Tid) : Engine :=
  if tid.isKernel then e else { e with tids := e.tids.insert tid }

/-- Suppresses a thread, and tells whether that can be done. -/
def trySuppress (e : Engine) (tid : Tid) : Bool × Engine := (!tid.isKernel, e.suppress tid)

/-- Lets all threads go. -/
def clearTids (e : Engine) : Engine := { e with tids := ∅ }

/-- Lets a thread go. -/
def release (e : Engine) (tid : Tid) : Engine := { e with tids := e.tids.erase tid }

/-- Whether a thread is suppressed. -/
def isSuppressed (e : Engine) (tid : Tid) : Bool := !tid.isKernel && e.tids.contains tid

/-- Whether a command is denylisted. -/
def isDenylisted (e : Engine) (command : String) : Bool := e.commands.contains command

/-- The number of suppressed threads. -/
def size (e : Engine) : Nat := e.tids.size

/-- Counts a record that is not passed on. -/
def count (e : Engine) : Engine := { e with suppressed := e.suppressed + 1 }

/-- Decides on a lineage event. A suppressed parent decides before the command does. -/
def processLineage (e : Engine) (record : Record) : Verdict × Engine :=
  match Ancestry.ofRecord? record with
  | none => (.pass, e)
  | some ancestry =>
    if e.isSuppressed ancestry.parent || e.isDenylisted ancestry.command then
      (.suppress, e.count.suppress record.tid)
    else (.pass, e)

/-- Decides on a record, whatever the state. The end of a thread is always passed on, and lets the
thread go. -/
def dispatch (e : Engine) (record : Record) : Verdict × Engine :=
  if record.event.isLineage then e.processLineage record
  else if record.event = .procexitEnter then (.pass, e.release record.tid)
  else if e.isSuppressed record.tid then (.suppress, e.count)
  else (.pass, e)

/-- Decides on a record. While nobody is suppressed and nothing denylisted, it is passed on
unseen. -/
def process (e : Engine) (record : Record) : Verdict × Engine :=
  if e.tids.isEmpty && e.commands.isEmpty then (.pass, e) else e.dispatch record

/-! ## Membership -/

theorem isSuppressed_iff {e : Engine} {tid : Tid} :
    e.isSuppressed tid = true ↔ tid ≠ .kernel ∧ tid ∈ e.tids := by
  rw [isSuppressed, Bool.and_eq_true, Std.ExtTreeSet.contains_iff_mem, Bool.not_eq_true',
    ← Bool.not_eq_true, Tid.isKernel_iff]

theorem mem_tids_suppress {e : Engine} {t u : Tid} :
    u ∈ (e.suppress t).tids ↔ (u = t ∧ t ≠ .kernel) ∨ u ∈ e.tids := by
  unfold suppress
  split
  · rename_i h
    have hk : t = .kernel := Tid.isKernel_iff.mp h
    simp [hk]
  · rename_i h
    have hk : t ≠ .kernel := fun hk => h (Tid.isKernel_iff.mpr hk)
    simp only [Std.ExtTreeSet.mem_insert, Std.compare_eq_iff_eq]
    grind

theorem isSuppressed_suppress {e : Engine} {t u : Tid} :
    (e.suppress t).isSuppressed u = true ↔ (u = t ∧ u ≠ .kernel) ∨ e.isSuppressed u = true := by
  rw [isSuppressed_iff, isSuppressed_iff, mem_tids_suppress]
  grind

theorem isSuppressed_release {e : Engine} {t u : Tid} :
    (e.release t).isSuppressed u = true ↔ u ≠ t ∧ e.isSuppressed u = true := by
  rw [isSuppressed_iff, isSuppressed_iff]
  simp only [release, Std.ExtTreeSet.mem_erase, ne_eq, Std.compare_eq_iff_eq]
  grind

end Engine

end SyscallTrace
