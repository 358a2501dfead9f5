import SyscallTrace.Net.Payload
import SyscallTrace.Schema.EventType
import SyscallTrace.Text.Utf8

/-!
# Parameters

A parameter is a type and some bytes. It is read through the accessor of its type, and every other
accessor refuses it. An empty parameter is absent: the accessors of integers, of addresses and of
connections give nothing for it, the others an empty value (specification §15.3).

- `Param.unsigned?`, `Param.signed?`: integers, extended to 64 bits.
- `Param.variant?`: a value of one of several types.
- `Param.text`: a string up to its first NUL, which has to be well-formed UTF-8.
- `Param.address?`, `Param.connection?`, `Param.descriptors`: sockets and files.
-/

namespace SyscallTrace

/-- Positions in a byte string. -/
structure Span where
  start : UInt32
  length : UInt32
  deriving DecidableEq, Repr

/-- What an accessor expects of a parameter. -/
inductive ParamKind where
  | integer
  | variant
  | string
  | address
  | connection
  | descriptors
  deriving DecidableEq, Repr

/-- The name of a kind. -/
def ParamKind.name : ParamKind → String
  | .integer => "integer"
  | .variant => "dyn"
  | .string => "string"
  | .address => "sockaddr"
  | .connection => "socktuple"
  | .descriptors => "fdlist"

/-- Why a parameter, or its value, cannot be had. -/
inductive ParamError where
  /-- The record has no parameter at the index. -/
  | missing (index : Nat)
  | wrongType (expected : ParamKind) (found : ParamType)
  /-- An integer has one, two, four or eight bytes. -/
  | integerSize (size : Nat)
  /-- The positions lie outside of the record. -/
  | outside (start stop length : Nat)
  | notText (bytes : Bytes) (error : Utf8.DecodeError)
  | payload (error : PayloadError)
  deriving DecidableEq, Repr

/-- The text of a decoding error: how far the text is well-formed, and how many bytes are not. -/
def Utf8.DecodeError.text (e : Utf8.DecodeError) : String :=
  let size :=
    match e.errorLength with
    | some n => s!"Some({n})"
    | none => "None"
  s!"Utf8Error \x7b valid_up_to: {e.validUpTo}, error_len: {size} \x7d"

/-- Says what is wrong with the parameter. -/
def ParamError.message : ParamError → String
  | .missing index => s!"parameter {index} not present"
  | .wrongType expected found =>
    s!"parameter has type {found.name}, expected {expected.name}"
  | .integerSize size => s!"integer parameter has invalid size {size}"
  | .outside start stop length =>
    s!"Index [{start}-{stop}] is out of event buffer (len {length})"
  | .notText bytes error =>
    s!"Index is not pointing to a valid string. {byteListText bytes} {error.text}"
  | .payload error => error.message

/-- The bytes at some positions of a buffer. -/
def Span.slice (span : Span) (buffer : Bytes) : Except ParamError Bytes :=
  let stop := span.start.toNat + span.length.toNat
  if stop ≤ buffer.length then .ok ((buffer.drop span.start.toNat).take span.length.toNat)
  else .error (.outside span.start.toNat stop buffer.length)

/-- A parameter of a record. -/
structure Param where
  type : ParamType
  data : Bytes
  deriving DecidableEq, Repr

namespace Param

/-- Whether the parameter is absent. -/
def isEmpty (p : Param) : Bool := p.data.isEmpty

/-- Refuses a parameter that is not of the expected kind. -/
def expect (p : Param) (ok : Bool) (kind : ParamKind) : Except ParamError Unit :=
  if ok then .ok () else .error (.wrongType kind p.type)

/-- The value of an integer, extended with zeros. -/
def unsigned? (p : Param) : Except ParamError (Option UInt64) := do
  p.expect (!p.type.isVariable) .integer
  match p.data.length with
  | 0 => .ok none
  | 1 | 2 | 4 | 8 => .ok (some (Bytes.toUInt64 p.data))
  | size => .error (.integerSize size)

/-- Reads the low `size` bytes of a number in two's complement. -/
def extendSign (size : Nat) (n : UInt64) : Int64 :=
  Int64.ofInt (Int.bmod n.toNat (LittleEndian.count size))

/-- The value of an integer, extended with its sign. -/
def signed? (p : Param) : Except ParamError (Option Int64) := do
  let value ← p.unsigned?
  return value.map (extendSign p.data.length)

/-- The variant of a value of one of several types, and the bytes of the value. -/
def variant? (p : Param) : Except ParamError (Option (UInt8 × Bytes)) := do
  p.expect (p.type = .dyn) .variant
  match p.data with
  | [] => .ok none
  | variant :: value => .ok (some (variant, value))

/-- The text of a string. -/
def text (p : Param) : Except ParamError String := do
  p.expect p.type.isString .string
  let bytes := Bytes.beforeNul p.data
  match Utf8.decode bytes with
  | .ok chars => .ok (String.ofList chars)
  | .error e => .error (.notText bytes e)

/-- The address of a socket. -/
def address? (p : Param) : Except ParamError (Option SocketAddress) := do
  p.expect (p.type = .sockaddr) .address
  (SocketAddress.decode p.data).mapError .payload

/-- The two ends of a connection. -/
def connection? (p : Param) : Except ParamError (Option Connection) := do
  p.expect (p.type = .socktuple) .connection
  (Connection.decode p.data).mapError .payload

/-- A list of descriptors. -/
def descriptors (p : Param) : Except ParamError (List Descriptor) := do
  p.expect (p.type = .fdlist) .descriptors
  (Descriptor.decodeList p.data).mapError .payload

/-! ## Payloads of their own type -/

variable {p : Param}

theorem address?_eq (h : p.type = .sockaddr) :
    p.address? = (SocketAddress.decode p.data).mapError .payload := by
  rw [address?, expect, if_pos (decide_eq_true h)]
  rfl

theorem connection?_eq (h : p.type = .socktuple) :
    p.connection? = (Connection.decode p.data).mapError .payload := by
  rw [connection?, expect, if_pos (decide_eq_true h)]
  rfl

theorem descriptors_eq (h : p.type = .fdlist) :
    p.descriptors = (Descriptor.decodeList p.data).mapError .payload := by
  rw [descriptors, expect, if_pos (decide_eq_true h)]
  rfl

end Param

end SyscallTrace
