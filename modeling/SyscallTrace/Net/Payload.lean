import SyscallTrace.Bytes.Terminated
import SyscallTrace.Net.Address

/-!
# Payloads that name sockets and files

Three types of parameters have a layout of their own. A payload that tells of sockets starts with
the family, and what follows depends on it (specification §12, §15.2).

| payload | layout |
|---|---|
| address, IPv4 | family, 4 bytes, port |
| address, IPv6 | family, 16 bytes, port |
| address, UNIX | family, path, NUL |
| connection, IPv4 and IPv6 | family, source and its port, destination and its port |
| connection, UNIX | family, source id, destination id, path, NUL |
| descriptors | count, then for each the descriptor and its flags |

Ports, ids, counts, descriptors and flags are little-endian; addresses are in network order. An
empty payload tells of nothing, which is not an error.

- `SocketAddress.decode`, `Connection.decode`, `Descriptor.decodeList`: the three decoders.
-/

namespace SyscallTrace

/-- A family of socket addresses. -/
inductive Family where
  | unspec
  | unix
  | inet
  | inet6
  deriving DecidableEq, Repr

namespace Family

/-- The byte that stands for a family. -/
def tag : Family → UInt8
  | unspec => 0
  | unix => 1
  | inet => 2
  | inet6 => 10

/-- The name of a family. -/
def name : Family → String
  | unspec => "Unspec"
  | unix => "Unix"
  | inet => "Inet"
  | inet6 => "Inet6"

/-- The family that a byte stands for. -/
def ofTag? (tag : UInt8) : Option Family :=
  [unspec, unix, inet, inet6].find? (·.tag == tag)

@[simp] theorem ofTag?_tag (family : Family) : ofTag? family.tag = some family := by
  cases family <;> rfl

theorem tag_of_ofTag? {tag : UInt8} {family : Family} (h : ofTag? tag = some family) :
    family.tag = tag := by
  simpa using List.find?_some h

end Family

/-- Why a payload cannot be decoded. -/
inductive PayloadError where
  | unknownFamily (tag : UInt8)
  | invalidSize (family : Family) (size : Nat)
  | invalidDescriptors (count size : Nat)
  deriving DecidableEq, Repr

/-- Says which number is wrong. -/
def PayloadError.message : PayloadError → String
  | .unknownFamily tag => s!"unknown socket family {tag.toNat}"
  | .invalidSize family size => s!"{family.name} payload has invalid size {size}"
  | .invalidDescriptors count size => s!"fd list declares {count} entries but has {size} bytes"

/-- The address of a socket. -/
inductive SocketAddress where
  | inet (socket : Ipv4Socket)
  | inet6 (socket : Ipv6Socket)
  | unix (path : Bytes)
  deriving DecidableEq, Repr

/-- The two ends of a connection. UNIX sockets have ids that the kernel gave them. -/
inductive Connection where
  | inet (source dest : Ipv4Socket)
  | inet6 (source dest : Ipv6Socket)
  | unix (source dest : UInt64) (path : Bytes)
  deriving DecidableEq, Repr

/-- A file descriptor with flags. -/
structure Descriptor where
  fd : Int64
  flags : UInt16
  deriving DecidableEq, Repr

/-- The family that a payload starts with. -/
def Family.ofPayload (tag : UInt8) : Except PayloadError Family :=
  match Family.ofTag? tag with
  | some family => .ok family
  | none => .error (.unknownFamily tag)

/-- An IPv4 address and a port, from the front of a byte string. -/
def Ipv4Socket.ofBytes (bs : Bytes) : Ipv4Socket :=
  ⟨.ofBytes bs, Bytes.toUInt16 ((bs.drop 4).take 2)⟩

/-- An IPv6 address and a port, from the front of a byte string. -/
def Ipv6Socket.ofBytes (bs : Bytes) : Ipv6Socket :=
  { address := .ofBytes bs, port := Bytes.toUInt16 ((bs.drop 16).take 2) }

/-- Decodes a socket address. The unspecified family alone names no address. -/
def SocketAddress.decode : Bytes → Except PayloadError (Option SocketAddress)
  | [] => .ok none
  | tag :: body => do
    let family ← Family.ofPayload tag
    let invalid := .error (.invalidSize family (body.length + 1))
    match family with
    | .inet => if body.length = 6 then .ok (some (.inet (.ofBytes body))) else invalid
    | .inet6 => if body.length = 18 then .ok (some (.inet6 (.ofBytes body))) else invalid
    | .unix => .ok (some (.unix (Bytes.beforeNul body)))
    | .unspec => if body.length = 0 then .ok none else invalid

/-- Decodes the two ends of a connection. -/
def Connection.decode : Bytes → Except PayloadError (Option Connection)
  | [] => .ok none
  | tag :: body => do
    let family ← Family.ofPayload tag
    let invalid := .error (.invalidSize family (body.length + 1))
    match family with
    | .inet =>
      if body.length = 12 then .ok (some (.inet (.ofBytes body) (.ofBytes (body.drop 6))))
      else invalid
    | .inet6 =>
      if body.length = 36 then .ok (some (.inet6 (.ofBytes body) (.ofBytes (body.drop 18))))
      else invalid
    | .unix =>
      if body.length ≥ 16 then
        .ok (some (.unix (Bytes.toUInt64 (body.take 8)) (Bytes.toUInt64 ((body.drop 8).take 8))
          (Bytes.beforeNul (body.drop 16))))
      else invalid
    | .unspec => invalid

namespace Descriptor

/-- The number of bytes of an entry. -/
def size : Nat := 10

/-- A descriptor and its flags, from the front of a byte string. -/
def ofBytes (bs : Bytes) : Descriptor :=
  ⟨(Bytes.toUInt64 (bs.take 8)).toInt64, Bytes.toUInt16 ((bs.drop 8).take 2)⟩

/-- The bytes of an entry. -/
def toBytes (d : Descriptor) : Bytes := Bytes.ofUInt64 d.fd.toUInt64 ++ Bytes.ofUInt16 d.flags

/-- Reads `count` entries after those in `entries`, which are in reverse order. -/
def readEntries (entries : List Descriptor) : Nat → Bytes → List Descriptor
  | 0, _ => entries.reverse
  | count + 1, bs => readEntries (ofBytes bs :: entries) count (bs.drop size)

/-- Decodes a list of descriptors. The count has to agree with the size to the byte. -/
def decodeList : Bytes → Except PayloadError (List Descriptor)
  | [] => .ok []
  | [_] => .error (.invalidDescriptors 0 1)
  | low :: high :: body =>
    let count := (Bytes.toUInt16 [low, high]).toNat
    if body.length = count * size then .ok (readEntries [] count body)
    else .error (.invalidDescriptors count (body.length + 2))

@[simp] theorem length_toBytes (d : Descriptor) : d.toBytes.length = size := by
  simp [toBytes, size]

end Descriptor

end SyscallTrace
