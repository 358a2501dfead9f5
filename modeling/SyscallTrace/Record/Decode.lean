import SyscallTrace.Record.Header
import SyscallTrace.Record.Param

/-!
# Decoding records

A record is a header, one length prefix for every parameter, and the parameters themselves, one
after the other. Nothing in it is trusted: the lengths have to add up to the length that the header
declares before any parameter is looked at (specification §4.6, §15.3).

A record may come from a producer that knows more or fewer parameters of an event than this
library does. As many as both know are decoded; the lengths of the others only count for the sum.

- `Record.decode`: the record at the front of a byte string. What follows its declared length is
  ignored.
- `Record.length_of_decode`: a decoded record has at least the bytes of a header, and no more than
  the byte string.
-/

namespace SyscallTrace

/-- Why a byte string does not start with a record. -/
inductive DecodeError where
  /-- The byte string is shorter than a header. -/
  | truncatedHeader (length : Nat)
  /-- The record goes on after the end of the byte string. -/
  | truncatedRecord (declared available : Nat)
  | unknownEvent (tag : UInt16)
  | tooManyParams (count : Nat)
  /-- The parts of the record do not add up to its declared length. -/
  | lengthMismatch (computed declared : Nat)
  | paramOutOfBounds (index : Nat) (type : ParamType) (length min max : UInt32)
  deriving DecidableEq, Repr

/-- Says which numbers do not agree. -/
def DecodeError.message : DecodeError → String
  | .truncatedHeader length => s!"buffer of {length} bytes is too short for a record header"
  | .truncatedRecord declared available =>
    s!"record declares {declared} bytes but only {available} are available"
  | .unknownEvent tag => s!"unknown event type {tag.toNat}"
  | .tooManyParams count => s!"record declares {count} parameters"
  | .lengthMismatch computed declared =>
    s!"parameters span {computed} bytes but record declares {declared}"
  | .paramOutOfBounds index type length min max =>
    s!"parameter {index} ({type.name}) has length {length.toNat}, " ++
      s!"expected {min.toNat}..={max.toNat}"

/-- The type of a parameter and its place in the record. -/
structure ParamView where
  type : ParamType
  span : Span
  deriving DecidableEq, Repr

/-- A decoded record. -/
structure Record where
  /-- The bytes of the record, all of them and no others. -/
  bytes : Bytes
  header : Header
  event : EventType
  views : List ParamView
  deriving DecidableEq, Repr

namespace Record

/-- The first `count` lengths of an array of prefixes. -/
def readPrefixes (width : PrefixWidth) : Nat → Bytes → List UInt32
  | 0, _ => []
  | count + 1, bs =>
    Bytes.toUInt32 (bs.take width.size) :: readPrefixes width count (bs.drop width.size)

/-- The sum of some lengths. -/
def sumLengths (lengths : List UInt32) : Nat :=
  lengths.foldr (fun length sum => length.toNat + sum) 0

/-- Lays out the parameters one after the other from `offset` on. Fields without a length and
lengths without a field are left out. -/
def layOut (width : PrefixWidth) :
    Nat → UInt32 → List Field → List UInt32 → Except DecodeError (List ParamView)
  | index, offset, field :: fields, length :: lengths =>
    let (min, max) := field.type.bounds width
    if length ≠ 0 ∧ (length < min ∨ max < length) then
      .error (.paramOutOfBounds index field.type length min max)
    else do
      let views ← layOut width (index + 1) (offset + length) fields lengths
      return { type := field.type, span := ⟨offset, length⟩ } :: views
  | _, _, _, _ => .ok []

/-- Decodes the rest of a record once its bytes are known. -/
def decodeBody (header : Header) (bytes : Bytes) : Except DecodeError Record :=
  match EventType.ofTag? header.tag with
  | none => .error (.unknownEvent header.tag)
  | some event =>
    let width := event.schema.width
    let declared := header.length.toNat
    let count := header.count.toNat
    let start := Header.size + count * width.size
    if count > maxParams then .error (.tooManyParams count)
    else if start > declared then .error (.lengthMismatch start declared)
    else
      let lengths := readPrefixes width count (bytes.drop Header.size)
      let computed := start + sumLengths lengths
      if computed ≠ declared then .error (.lengthMismatch computed declared)
      else
        match layOut width 0 (UInt32.ofNat start) event.schema.fields lengths with
        | .error e => .error e
        | .ok views => .ok { bytes, header, event, views }

/-- Decodes the record at the front of a byte string. -/
def decode (buffer : Bytes) : Except DecodeError Record :=
  match Header.parse? buffer with
  | none => .error (.truncatedHeader buffer.length)
  | some header =>
    let declared := header.length.toNat
    if declared > buffer.length then .error (.truncatedRecord declared buffer.length)
    else if declared < Header.size then .error (.lengthMismatch Header.size declared)
    else decodeBody header (buffer.take declared)

/-- The time of the event. -/
def time (r : Record) : Timestamp := r.header.time

/-- The thread of the event. -/
def tid (r : Record) : Tid := r.header.tid

/-- The number of decoded parameters. -/
def size (r : Record) : Nat := r.views.length

/-- The parameter at an index. -/
def param (r : Record) (index : Nat) : Except ParamError Param :=
  match r.views[index]? with
  | none => .error (.missing index)
  | some view => do
    let data ← view.span.slice r.bytes
    return { type := view.type, data }

/-- The parameters that lie inside of the record. -/
def params (r : Record) : List Param :=
  r.views.filterMap fun view =>
    match view.span.slice r.bytes with
    | .ok data => some { type := view.type, data }
    | .error _ => none

theorem bytes_of_decodeBody {header : Header} {bytes : Bytes} {r : Record}
    (h : decodeBody header bytes = .ok r) : r.bytes = bytes := by
  unfold decodeBody at h
  split at h
  · cases h
  · dsimp only at h
    split at h
    · cases h
    · split at h
      · cases h
      · split at h
        · cases h
        · split at h
          · cases h
          · cases h
            rfl

theorem length_of_decode {buffer : Bytes} {r : Record} (h : decode buffer = .ok r) :
    Header.size ≤ r.bytes.length ∧ r.bytes.length ≤ buffer.length := by
  unfold decode at h
  split at h
  · cases h
  · dsimp only at h
    split at h
    · cases h
    · split at h
      · cases h
      · rename_i hle hge
        rw [bytes_of_decodeBody h, List.length_take]
        omega

end Record

end SyscallTrace
