/-!
# Files

What the system says when it does not give the contents of a file, such as a configuration
(specification §11.3).
-/

namespace SyscallTrace

/-- An error of the system. -/
structure FileFault where
  /-- The words for it. -/
  reason : String
  /-- The number of the error. -/
  code : Nat
  deriving DecidableEq, Repr

/-- There is no file of that name. -/
def FileFault.missing : FileFault := ⟨"No such file or directory", 2⟩

/-- The words for the error, and its number. -/
def FileFault.message (fault : FileFault) : String := s!"{fault.reason} (os error {fault.code})"

end SyscallTrace
