import SyscallTrace.Capture.Value
import SyscallTrace.Record.Header

/-!
# Encoding events

An `Encoder` stages one event (specification §4.3, §15.1). It reserves the header and the length
prefixes, takes the values in the order of the schema, writes each after the one before it, and
notes its length in the prefix. Three things can go wrong (§7):

- a value that cannot be read is no error: the parameter is empty;
- a value that does not fit aborts the event: nothing more is taken, and the caller decides
  whether what is there is worth emitting;
- a value that the schema does not expect is refused, and the encoder goes on as if nothing had
  happened.

`Encoder.begin`, `Encoder.push` and `Encoder.finish` or `Encoder.finishWith` are called in this
order.
-/

namespace SyscallTrace

/-- A value that the schema of its event does not expect. -/
inductive SchemaMismatch where
  | indexOutOfRange (event : EventType) (index : Nat)
  | typeMismatch (event : EventType) (index : Nat) (expected : ParamType) (found : String)
  deriving DecidableEq, Repr

/-- Says what was expected. -/
def SchemaMismatch.message : SchemaMismatch → String
  | .indexOutOfRange event index => s!"{event.name} has no parameter {index}"
  | .typeMismatch event index expected found =>
    s!"{event.name} parameter {index} is {expected.name}, got a {found} value"

/-- Why an event, or a value, is not encoded. -/
inductive EncodeError where
  | bufferFull (error : BufferFull)
  /-- The value has more bytes than a parameter may have. -/
  | frameFull (length : Nat)
  /-- The event was aborted before. -/
  | aborted
  | incomplete (event : EventType) (pushed expected : Nat)
  | mismatch (error : SchemaMismatch)
  deriving DecidableEq, Repr

/-- Says what went wrong. -/
def EncodeError.message : EncodeError → String
  | .bufferFull error => error.message
  | .frameFull length => s!"parameter of {length} bytes exceeds the size limit"
  | .aborted => "event encoding aborted by a previous capacity error"
  | .incomplete event pushed expected =>
    s!"{event.name}: {pushed} of {expected} parameters encoded"
  | .mismatch error => "schema mismatch: " ++ error.message

/-- What becomes of an event that is not complete. -/
inductive TruncationPolicy where
  | drop
  /-- Emit it, with the missing parameters empty. -/
  | emitPartial
  deriving DecidableEq, Repr, Inhabited

/-- An encoded event. -/
structure Frame where
  bytes : Bytes
  /-- Whether parameters are missing. -/
  truncated : Bool
  deriving DecidableEq, Repr

/-- An event that is being encoded. -/
structure Encoder where
  scratch : Scratch
  settings : CaptureSettings
  memory : Memory
  event : EventType
  time : Timestamp
  tid : Tid
  /-- The number of values taken so far. -/
  pushed : Nat := 0
  /-- Written in front of the next value, to say which of several types it has. -/
  variant : Option UInt8 := none
  aborted : Bool := false

namespace Encoder

/-- The number of bytes in front of the parameters. -/
def headSize (event : EventType) : Nat :=
  Header.size + event.schema.size * event.schema.width.size

/-- Starts an event. The buffer is cleared first, and it is given back if there is no room for
header and prefixes. -/
def begin (scratch : Scratch) (settings : CaptureSettings) (memory : Memory) (event : EventType)
    (time : Timestamp) (tid : Tid) : Except (EncodeError × Scratch) Encoder :=
  match scratch.clear.reserve (headSize event) with
  | (.ok _, scratch) => .ok { scratch, settings, memory, event, time, tid }
  | (.error e, scratch) => .error (.bufferFull e, scratch)

/-- The number of parameters of the event. -/
def expected (e : Encoder) : Nat := e.event.schema.size

/-- Puts a byte in front of the next value. -/
def withVariant (e : Encoder) (variant : UInt8) : Encoder := { e with variant := some variant }

/-- Writes the byte in front of a value, if there is one, and the value. -/
def writeParam (e : Encoder) (value : Value) : Except BufferFull Unit × Scratch :=
  match e.variant with
  | none => value.write e.settings e.memory e.scratch
  | some variant =>
    match e.scratch.append [variant] with
    | (.ok _, scratch) => value.write e.settings e.memory scratch
    | (.error full, scratch) => (.error full, scratch)

/-- Gives up: throws away what was written after the first `mark` bytes. -/
def abort (e : Encoder) (scratch : Scratch) (mark : Nat) : Encoder :=
  { e with scratch := scratch.truncate mark, variant := none, aborted := true }

/-- The position of the length prefix of a parameter. -/
def prefixOffset (e : Encoder) (index : Nat) : Nat :=
  Header.size + index * e.event.schema.width.size

/-- Takes the next value, and gives the number of bytes that it took. -/
def push (e : Encoder) (value : Value) : Except EncodeError Nat × Encoder :=
  if e.aborted then (.error .aborted, e)
  else
    match e.event.schema.fields[e.pushed]? with
    | none => (.error (.mismatch (.indexOutOfRange e.event e.pushed)), e)
    | some field =>
      if field.type ≠ .dyn ∧ value.accepts field.type = false then
        (.error (.mismatch (.typeMismatch e.event e.pushed field.type value.kind)), e)
      else
        let mark := e.scratch.length
        match e.writeParam value with
        | (.error full, scratch) => (.error (.bufferFull full), e.abort scratch mark)
        | (.ok _, scratch) =>
          let length := scratch.length - mark
          if length > maxParamSize then (.error (.frameFull length), e.abort scratch mark)
          else
            let slot := LittleEndian.encode e.event.schema.width.size length
            match scratch.write (e.prefixOffset e.pushed) slot with
            | (.error full, scratch) =>
              (.error (.bufferFull full), { e with scratch, variant := none })
            | (.ok _, scratch) =>
              (.ok length, { e with scratch, variant := none, pushed := e.pushed + 1 })

/-- The header of the event as it stands. -/
def header (e : Encoder) : Header where
  time := e.time
  tid := e.tid
  length := UInt32.ofNat e.scratch.length
  tag := e.event.tag
  count := UInt32.ofNat e.expected

/-- Writes the header and gives the bytes of the event away. -/
def sealBytes (e : Encoder) : Except EncodeError Bytes × Scratch :=
  match e.scratch.write 0 e.header.toBytes with
  | (.error full, scratch) => (.error (.bufferFull full), scratch)
  | (.ok _, scratch) =>
    let (bytes, scratch) := scratch.take
    (.ok bytes, scratch)

/-- Ends an event that has to be complete. -/
def finish (e : Encoder) : Except EncodeError Bytes × Scratch :=
  if e.aborted then (.error .aborted, e.scratch)
  else if e.pushed ≠ e.expected then
    (.error (.incomplete e.event e.pushed e.expected), e.scratch)
  else e.sealBytes

/-- Whether parameters are missing. -/
def isTruncated (e : Encoder) : Bool := e.aborted || e.pushed < e.expected

/-- Ends an event that need not be complete. There is no frame if it is dropped. -/
def finishWith (e : Encoder) (policy : TruncationPolicy) :
    Except EncodeError (Option Frame) × Scratch :=
  if e.isTruncated && policy == .drop then (.ok none, e.scratch)
  else
    match e.sealBytes with
    | (.error error, scratch) => (.error error, scratch)
    | (.ok bytes, scratch) => (.ok (some { bytes, truncated := e.isTruncated }), scratch)

end Encoder

end SyscallTrace
