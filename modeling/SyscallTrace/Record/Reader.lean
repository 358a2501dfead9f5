import SyscallTrace.Record.Decode

/-!
# Reading one record after the other

A `Reader` walks a byte string that holds several records. A record that cannot be decoded is an
error, and the walk goes on behind it as long as its declared length says where that is. Once the
boundary is lost the reader stops, and keeps the bytes that it could not read (specification §15.3).

- `Reader.next`: the next item and the reader behind it.
- `Reader.measure_next_lt`: every item makes the reader smaller, so a walk ends.
- `Reader.items`: all items, and the reader at the end of the walk.
-/

namespace SyscallTrace

/-- The bytes that are still to be read. -/
structure Reader where
  buffer : Bytes
  /-- Whether a boundary between records was lost. -/
  stopped : Bool := false
  deriving DecidableEq, Repr

namespace Reader

/-- A reader at the front of a byte string. -/
def ofBytes (bs : Bytes) : Reader := { buffer := bs }

/-- The number of bytes that are still to be read. -/
def remaining (r : Reader) : Nat := r.buffer.length

/-- The length that leads to the next record, if the one in front declares a sensible one. -/
def boundary? (r : Reader) : Option Nat :=
  match Header.parse? r.buffer with
  | none => none
  | some header =>
    let length := header.length.toNat
    if Header.size ≤ length ∧ length ≤ r.buffer.length then some length else none

/-- A record, or the reason why there is none. -/
abbrev Item := Except DecodeError Record

/-- The next item, if there is one, and the reader behind it. -/
def next (r : Reader) : Option Item × Reader :=
  if r.stopped || r.buffer.isEmpty then (none, r)
  else
    match Record.decode r.buffer with
    | .ok record => (some (.ok record), { r with buffer := r.buffer.drop record.bytes.length })
    | .error e =>
      match r.boundary? with
      | some length => (some (.error e), { r with buffer := r.buffer.drop length })
      | none => (some (.error e), { r with stopped := true })

/-- What is left to do: nothing once the reader is stopped. -/
def measure (r : Reader) : Nat := if r.stopped then 0 else r.buffer.length + 1

theorem boundary?_spec {r : Reader} {length : Nat} (h : r.boundary? = some length) :
    Header.size ≤ length ∧ length ≤ r.buffer.length := by
  unfold boundary? at h
  split at h
  · cases h
  · dsimp only at h
    split at h
    · cases h
      assumption
    · cases h

theorem measure_next_lt {r s : Reader} {item : Item} (h : r.next = (some item, s)) :
    s.measure < r.measure := by
  unfold next at h
  split at h
  · cases h
  · rename_i hgo
    have hrun : r.stopped = false := by
      cases hs : r.stopped
      · rfl
      · simp [hs] at hgo
    split at h
    · rename_i record hdecode
      cases h
      have hlen := Record.length_of_decode hdecode
      simp only [measure, hrun, Bool.false_eq_true, if_false, List.length_drop]
      have hsize : Header.size = 26 := rfl
      omega
    · split at h
      · rename_i length hboundary
        cases h
        have hlen := boundary?_spec hboundary
        simp only [measure, hrun, Bool.false_eq_true, if_false, List.length_drop]
        have hsize : Header.size = 26 := rfl
        omega
      · cases h
        simp [measure, hrun]

/-- All items that are left, and the reader behind the last of them. -/
def items (r : Reader) : List Item × Reader :=
  match _h : r.next with
  | (none, s) => ([], s)
  | (some item, s) =>
    let (rest, last) := items s
    (item :: rest, last)
termination_by r.measure
decreasing_by exact measure_next_lt _h

end Reader

end SyscallTrace
