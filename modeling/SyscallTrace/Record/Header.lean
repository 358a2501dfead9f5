import SyscallTrace.Bytes.LittleEndian
import SyscallTrace.Thread
import SyscallTrace.Time

/-!
# Record headers

A record starts with 26 bytes that say when and in which thread the event happened, how long the
record is, what the event was, and how many parameters follow (specification §3, §12).

| bytes | field |
|---|---|
| 0 to 7 | time |
| 8 to 15 | thread |
| 16 to 19 | length of the record, header included |
| 20 and 21 | tag of the event |
| 22 to 25 | number of parameters |

- `Header.parse?_toBytes_append`: a header that was written is read back, whatever follows it.
-/

namespace SyscallTrace

/-- What a record says about itself. Nothing in it has been checked. -/
structure Header where
  time : Timestamp
  tid : Tid
  /-- Length of the record, header included. -/
  length : UInt32
  /-- Tag of the event. -/
  tag : UInt16
  /-- Number of parameters. -/
  count : UInt32
  deriving DecidableEq, Repr, Inhabited

namespace Header

/-- The number of bytes of a header. -/
def size : Nat := 26

/-- The header at the front of a byte string, if that is long enough. -/
def parse? (bs : Bytes) : Option Header :=
  if bs.length < size then none
  else some {
    time := ⟨Bytes.toUInt64 (bs.take 8)⟩
    tid := ⟨Bytes.toUInt64 ((bs.drop 8).take 8)⟩
    length := Bytes.toUInt32 ((bs.drop 16).take 4)
    tag := Bytes.toUInt16 ((bs.drop 20).take 2)
    count := Bytes.toUInt32 ((bs.drop 22).take 4) }

/-- The bytes of a header. -/
def toBytes (h : Header) : Bytes :=
  Bytes.ofUInt64 h.time.nanos ++ (Bytes.ofUInt64 h.tid.raw ++ (Bytes.ofUInt32 h.length ++
    (Bytes.ofUInt16 h.tag ++ Bytes.ofUInt32 h.count)))

@[simp] theorem length_toBytes (h : Header) : h.toBytes.length = size := by
  simp [toBytes, size]

theorem parse?_eq_none_iff {bs : Bytes} : parse? bs = none ↔ bs.length < size := by
  simp [parse?]

theorem parse?_toBytes_append (h : Header) (rest : Bytes) :
    parse? (h.toBytes ++ rest) = some h := by
  have hlen : ¬ (h.toBytes ++ rest).length < size := by simp
  simp only [parse?, hlen, if_false]
  simp only [toBytes, List.append_assoc]
  simp [List.drop_append, List.drop_eq_nil_of_le]

end Header

end SyscallTrace
