import SyscallTrace.Bytes.LittleEndian

/-!
# The scratch buffer

An event is staged in a buffer of limited capacity before it is emitted. Every operation that could
grow the buffer checks the capacity; one that fails leaves the content as it was (specification
§4.2).

- `Scratch.write`, `Scratch.reserve`, `Scratch.append`: bytes at a position, zeros at the end,
  bytes at the end.
- `Scratch.fill`: a window of zeros at the end, which somebody else fills.
- `Scratch.truncate`, `Scratch.clear`, `Scratch.take`: give bytes back.

An operation gives its result together with the buffer behind it.
-/

namespace SyscallTrace

/-- A write that would need more room than there is. -/
structure BufferFull where
  needed : Nat
  capacity : Nat
  deriving DecidableEq, Repr

/-- Says how much room is missing. -/
def BufferFull.message (e : BufferFull) : String :=
  s!"scratch buffer full: {e.needed} bytes needed, capacity is {e.capacity}"

/-- A buffer of limited capacity. -/
structure Scratch where
  bytes : Bytes := []
  capacity : Nat := 131072
  deriving DecidableEq, Repr

/-- What was put into a window, and how many bytes of it are said to count. -/
structure Filled where
  bytes : Bytes
  reported : Nat
  deriving DecidableEq, Repr

namespace Scratch

/-- The greatest size that there is. Sums of sizes stay at it instead of going on. -/
def maxSize : Nat := UInt64.size - 1

/-- A sum of sizes. -/
def addSizes (a b : Nat) : Nat := min (a + b) maxSize

/-- The number of bytes in the buffer. -/
def length (s : Scratch) : Nat := s.bytes.length

/-- The number of bytes that may still be added. -/
def remaining (s : Scratch) : Nat := s.capacity - s.length

/-- Whether there is nothing in the buffer. -/
def isEmpty (s : Scratch) : Bool := s.bytes.isEmpty

/-- An empty buffer of the same capacity. -/
def clear (s : Scratch) : Scratch := { s with bytes := [] }

/-- The buffer with at most the first `length` bytes. -/
def truncate (s : Scratch) (length : Nat) : Scratch := { s with bytes := s.bytes.take length }

/-- The error of an operation that would need `needed` bytes. -/
def full (s : Scratch) (needed : Nat) : BufferFull := ⟨needed, s.capacity⟩

/-- Content that is replaced from `offset` on, with zeros between its old end and the new
bytes. -/
def overwrite (content : Bytes) (offset : Nat) (bs : Bytes) : Bytes :=
  let padded := content ++ List.replicate (offset + bs.length - content.length) 0
  padded.take offset ++ bs ++ padded.drop (offset + bs.length)

/-- Writes bytes at a position. -/
def write (s : Scratch) (offset : Nat) (bs : Bytes) : Except BufferFull Unit × Scratch :=
  let stop := addSizes offset bs.length
  if stop > s.capacity then (.error (s.full stop), s)
  else (.ok (), { s with bytes := overwrite s.bytes offset bs })

/-- Adds zeros at the end, and gives their position. -/
def reserve (s : Scratch) (size : Nat) : Except BufferFull Nat × Scratch :=
  let stop := addSizes s.length size
  if stop > s.capacity then (.error (s.full stop), s)
  else (.ok s.length, { s with bytes := s.bytes ++ List.replicate size 0 })

/-- Adds bytes at the end, and gives their number. If they turn out to be too many, they are
thrown away again. -/
def append (s : Scratch) (bs : Bytes) : Except BufferFull Nat × Scratch :=
  let longer : Scratch := { s with bytes := s.bytes ++ bs }
  if longer.length > s.capacity then (.error (s.full longer.length), longer.truncate s.length)
  else (.ok (longer.length - s.length), longer)

/-- The window for a value of at most `max` bytes: zeros, as many as there is room for. -/
def window (s : Scratch) (max : Nat) : Bytes := List.replicate (min max s.remaining) 0

/-- Hands out a window at the end, and keeps as many bytes of it as are said to count. A window
that was made smaller for lack of room, and is full, may hold a value that was cut: that is a
failure. -/
def fill (s : Scratch) (max : Nat) (put : Bytes → Filled) : Except BufferFull Nat × Scratch :=
  let window := s.window max
  let filled := put window
  let laid := filled.bytes.take window.length ++ window.drop filled.bytes.length
  let longer : Scratch := { s with bytes := s.bytes ++ laid }
  let written := min filled.reported window.length
  let kept := longer.truncate (s.length + written)
  if window.length < max ∧ written = window.length then
    (.error (s.full (addSizes s.length max)), kept.truncate s.length)
  else (.ok written, kept)

/-- Gives the content away. -/
def take (s : Scratch) : Bytes × Scratch := (s.bytes, s.clear)

end Scratch

end SyscallTrace
