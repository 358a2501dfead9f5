import SyscallTrace.Text.Quoted

/-!
# Reports of checks

A `CheckReport` collects the lines that a series of checks writes, and whether all of them passed
(specification §11.4).
-/

namespace SyscallTrace

/-- The checks so far. -/
structure CheckReport where
  /-- Whether all of them passed. -/
  success : Bool := true
  lines : List String := []
  deriving DecidableEq, Repr, Inhabited

namespace CheckReport

/-- Adds the line of a check that passed. -/
def pass (r : CheckReport) (line : String) : CheckReport :=
  { r with lines := r.lines ++ ["✓ " ++ line] }

/-- Adds the lines of a check that failed: the line of the check, and details below it. -/
def reject (r : CheckReport) (line : String) (details : List String) : CheckReport :=
  { success := false, lines := r.lines ++ ("❌ " ++ line) :: details }

/-- The line of a check that failed, with no reason in it. -/
def failed (what : String) : String := what ++ ": (FAIL)"

/-- Checks a condition. -/
def expect (r : CheckReport) (what : String) (holds : Bool) : CheckReport :=
  if holds then r.pass what else r.reject (failed what) []

/-- Checks that a value is the expected one. `text` writes values. -/
def expectEq {α : Type} [DecidableEq α] (r : CheckReport) (text : α → String) (what : String)
    (found expected : α) : CheckReport :=
  if found = expected then r.pass (what ++ ": " ++ text expected)
  else
    r.reject (failed what) ["  |    found: " ++ text found, "  | expected: " ++ text expected]

/-- Notes an error. `text` writes errors. -/
def fail {α : Type} (r : CheckReport) (text : α → String) (what : String) (error : α) :
    CheckReport :=
  r.reject (what ++ ": " ++ text error) []

end CheckReport

end SyscallTrace
