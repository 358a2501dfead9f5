import SyscallTrace.Capture.Memory
import SyscallTrace.Capture.Scratch
import SyscallTrace.Capture.Snaplen
import SyscallTrace.Net.Endpoint
import SyscallTrace.Schema.EventType

/-!
# Values to record

What a producer wants to record, before it is bytes. Integers carry themselves; strings and byte
strings come from a `Source`, which may be a pointer; sockets and descriptors are rendered as
payloads (specification §4.3).

A value that cannot be read is never an error: nothing is written for it. The only thing that can
go wrong is that the buffer is full.

- `Value.accepts`: the types of parameters that can hold a value.
- `Value.write`: writes a value at the end of a buffer.
-/

namespace SyscallTrace

/-- The most bytes of a parameter. -/
def maxParamSize : Nat := 65000

/-- Where bytes come from. -/
inductive Source where
  /-- Bytes that the producer has already. -/
  | slice (bytes : Bytes)
  /-- A pointer. -/
  | memory (space : AddressSpace) (address : UInt64)
  | null
  deriving DecidableEq, Repr

namespace Source

/-- Whether the source points nowhere. -/
def isNull : Source → Bool
  | .slice _ => false
  | .memory _ address => address == 0
  | .null => true

/-- The first `length` bytes of a source, all of them or none. -/
def read (memory : Memory) (length : Nat) : Source → Except ReadError Bytes
  | .slice bs =>
    if length ≤ bs.length then .ok (bs.take length) else .error (.short 0 length bs.length)
  | .memory space address => (memory.read space address length).map Subtype.val
  | .null => .error .null

end Source

/-- A value to record. -/
inductive Value where
  | i8 (n : Int8) | i16 (n : Int16) | i32 (n : Int32) | i64 (n : Int64)
  | u8 (n : UInt8) | u16 (n : UInt16) | u32 (n : UInt32) | u64 (n : UInt64)
  /-- A string, up to its first NUL. -/
  | text (source : Source)
  /-- The first `length` bytes of a source. With the ports of a connection, no more of them than
  the snap length. -/
  | bytes (source : Source) (length : UInt32) (ports : Option PortPair)
  /-- A value that is absent. -/
  | empty
  /-- The address of a socket, if it has one. -/
  | address (endpoint : Option Endpoint)
  /-- The ends of a connection, if there is one. -/
  | connection (socket : Option Socket) (user : Option Endpoint) (inbound : Bool)
  /-- A list of descriptors, if there is one. -/
  | descriptors (list : Option (List Descriptor))
  deriving DecidableEq, Repr

namespace Value

/-- A text that the producer has. -/
def ofText (bs : Bytes) : Value := .text (.slice bs)

/-- Bytes that the producer has. -/
def ofBytes (bs : Bytes) : Value :=
  .bytes (.slice bs) (UInt32.ofNat (min bs.length 0xFFFFFFFF)) none

/-- Makes the snap length apply to bytes, and leaves other values alone. -/
def withSnaplen (ports : PortPair) : Value → Value
  | .bytes source length _ => .bytes source length (some ports)
  | value => value

/-- What a value is called in error messages. -/
def kind : Value → String
  | .i8 _ => "i8" | .i16 _ => "i16" | .i32 _ => "i32" | .i64 _ => "i64"
  | .u8 _ => "u8" | .u16 _ => "u16" | .u32 _ => "u32" | .u64 _ => "u64"
  | .text _ => "string"
  | .bytes _ _ _ => "bytes"
  | .empty => "empty"
  | .address _ => "sockaddr"
  | .connection _ _ _ => "socktuple"
  | .descriptors _ => "fdlist"

/-- Whether a parameter of a type can hold a value. A parameter of one of several types can hold
all of them, which is not said here. -/
def accepts : Value → ParamType → Bool
  | .i8 _, type => type = .int8
  | .i16 _, type => type = .int16
  | .i32 _, type => type = .int32
  | .i64 _, type => [ParamType.int64, .errno, .fd, .pid].contains type
  | .u8 _, type => [ParamType.uint8, .flags8, .enumflags8, .sigtype].contains type
  | .u16 _, type => [ParamType.uint16, .flags16, .enumflags16, .syscallid].contains type
  | .u32 _, type =>
    [ParamType.uint32, .flags32, .enumflags32, .uid, .gid, .mode, .sigset].contains type
  | .u64 _, type => [ParamType.uint64, .reltime, .abstime].contains type
  | .text _, type => type.isString
  | .bytes _ _ _, type => [ParamType.bytebuf, .charbufarray].contains type
  | .empty, _ => true
  | .address _, type => type = .sockaddr
  | .connection _ _ _, type => type = .socktuple
  | .descriptors _, type => type = .fdlist

/-- A write of which only the success counts. -/
def ignoreSize : Except BufferFull Nat × Scratch → Except BufferFull Unit × Scratch
  | (r, s) => (r.map fun _ => (), s)

/-- Writes a string and a NUL. A string in memory is cut to the room that there is, and then it is
a failure if it fills that room. -/
def writeText (memory : Memory) (source : Source) (s : Scratch) :
    Except BufferFull Nat × Scratch :=
  if source.isNull then (.ok 0, s)
  else
    match source with
    | .slice bs => s.append ((Bytes.beforeNul bs).take (maxParamSize - 1) ++ [0])
    | .memory space start =>
      s.fill maxParamSize fun window =>
        match memory.readString space start window.length with
        | .ok bs => ⟨bs, bs.length⟩
        | .error _ => ⟨[], 0⟩
    | .null => (.ok 0, s)

/-- Writes the first bytes of a source, all that are wanted or none. -/
def writeWanted (memory : Memory) (source : Source) (wanted : Nat) (s : Scratch) :
    Except BufferFull Nat × Scratch :=
  let length := min wanted maxParamSize
  if s.remaining < length then (.error (s.full (s.length + length)), s)
  else
    s.fill length fun window =>
      match source.read memory window.length with
      | .ok bs => ⟨bs, window.length⟩
      | .error _ => ⟨[], 0⟩

/-- Writes a byte string. With the ports of a connection, its front has to be readable, and
decides how many bytes are wanted. -/
def writeBytes (settings : CaptureSettings) (memory : Memory) (source : Source) (length : UInt32)
    (ports : Option PortPair) (s : Scratch) : Except BufferFull Nat × Scratch :=
  if source.isNull || length == 0 then (.ok 0, s)
  else
    match ports with
    | none => writeWanted memory source length.toNat s
    | some ports =>
      match source.read memory (min length.toNat Snaplen.lookaheadSize) with
      | .error _ => (.ok 0, s)
      | .ok front =>
        writeWanted memory source (min length.toNat (settings.snaplenFor ports front).toNat) s

/-- The bytes of a list of descriptors, as many as the count can tell. -/
def descriptorBytes (list : List Descriptor) : Bytes :=
  let list := list.take 0xFFFF
  Bytes.ofUInt16 (UInt16.ofNat list.length) ++ list.flatMap Descriptor.toBytes

/-- Writes a value at the end of a buffer. -/
def write (settings : CaptureSettings) (memory : Memory) (value : Value) (s : Scratch) :
    Except BufferFull Unit × Scratch :=
  match value with
  | .i8 n => ignoreSize (s.append [n.toUInt8])
  | .i16 n => ignoreSize (s.append (Bytes.ofUInt16 n.toUInt16))
  | .i32 n => ignoreSize (s.append (Bytes.ofUInt32 n.toUInt32))
  | .i64 n => ignoreSize (s.append (Bytes.ofUInt64 n.toUInt64))
  | .u8 n => ignoreSize (s.append [n])
  | .u16 n => ignoreSize (s.append (Bytes.ofUInt16 n))
  | .u32 n => ignoreSize (s.append (Bytes.ofUInt32 n))
  | .u64 n => ignoreSize (s.append (Bytes.ofUInt64 n))
  | .text source => ignoreSize (writeText memory source s)
  | .bytes source length ports => ignoreSize (writeBytes settings memory source length ports s)
  | .empty => (.ok (), s)
  | .address none => (.ok (), s)
  | .address (some endpoint) => ignoreSize (s.append (endpoint.pack []).2)
  | .connection none _ _ => (.ok (), s)
  | .connection (some socket) user inbound =>
    ignoreSize (s.append (socket.pack user inbound []).2)
  | .descriptors none => (.ok (), s)
  | .descriptors (some list) => ignoreSize (s.append (descriptorBytes list))

end Value

end SyscallTrace
