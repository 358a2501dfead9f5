import SyscallTrace.Text.Numeral

/-!
# Timestamps

A record is stamped with the nanoseconds since the epoch. Arithmetic on timestamps stays within
their range instead of wrapping (specification §12).
-/

namespace SyscallTrace

/-- Nanoseconds since the epoch. -/
structure Timestamp where
  nanos : UInt64
  deriving DecidableEq, Repr, Inhabited

namespace Timestamp

/-- The timestamp of a number of nanoseconds, or the last one there is. -/
def saturate (n : Nat) : Timestamp := ⟨UInt64.ofNat (min n (UInt64.size - 1))⟩

/-- A later timestamp. -/
def add (t : Timestamp) (nanos : UInt64) : Timestamp := saturate (t.nanos.toNat + nanos.toNat)

/-- The time from `s` to `t`, none if `s` is later. -/
def sub (t s : Timestamp) : Timestamp := saturate (t.nanos.toNat - s.nanos.toNat)

/-- The nanoseconds in a second. -/
def nanosPerSecond : Nat := 1000000000

/-- Seconds, a point, and nine digits of nanoseconds. -/
def text (t : Timestamp) : String :=
  let nanos := t.nanos.toNat
  toString (nanos / nanosPerSecond) ++ "." ++ paddedDigits 9 (nanos % nanosPerSecond)

theorem toNat_saturate (n : Nat) : (saturate n).nanos.toNat = min n (UInt64.size - 1) := by
  have h : min n (UInt64.size - 1) < UInt64.size := by simp only [UInt64.size]; omega
  exact UInt64.toNat_ofNat_of_lt' h

end Timestamp

end SyscallTrace
