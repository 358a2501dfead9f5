import SyscallTrace.Net.Endpoint

/-!
# The two versions of the Internet protocol

A socket of the Internet is some octets and a port. The versions of the protocol differ in the
number of octets and in the family that a payload starts with; the flow and the scope that a socket
of the later one has are not written (specification §4.5, wire constants in §12). All that is said
of the bytes of such sockets depends on the version only through these two numbers, so it is said
once, with the version as a parameter.

- `IpVersion.Host`: the sockets of a version, which `IpVersion.ofParts` makes of octets and a port.
- `IpVersion.ofBytes_toBytes_append`, `IpVersion.toBytes_ofBytes`: a socket is read from the front
  of its bytes, and bytes of the right number are those of the socket that is read from them.
- `IpVersion.endpoint`, `IpVersion.socketAddress`, `IpVersion.connection`: what the sockets of a
  version are ends, addresses and sides of.
- `IpVersion.decode_socketAddress`, `IpVersion.decode_connection`: the two decoders on the family of
  a version.
-/

namespace SyscallTrace

/-! ## Octets and a port behind them -/

namespace Octets

variable {n : Nat}

/-- Octets that are read from enough bytes are the first of them. -/
theorem bytes_ofBytes_of_le {bs : Bytes} (h : n ≤ bs.length) :
    (ofBytes bs : Octets n).bytes = bs.take n :=
  List.take_append_of_le_length h

/-- The port is the two bytes behind the octets. -/
theorem port_behind (a : Octets n) (port : UInt16) (rest : Bytes) :
    Bytes.toUInt16 (((a.bytes ++ Bytes.ofUInt16 port ++ rest).drop n).take 2) = port := by
  rw [List.append_assoc, List.drop_left' a.length_bytes,
    List.take_left' (Bytes.length_ofUInt16 port), Bytes.toUInt16_ofUInt16]

/-- Octets and a port that were read are written as the bytes that they were read from. -/
theorem ofBytes_append_port {bs : Bytes} (h : bs.length = n + 2) :
    (ofBytes bs : Octets n).bytes ++ Bytes.ofUInt16 (Bytes.toUInt16 ((bs.drop n).take 2)) = bs := by
  have hport : (bs.drop n).length = 2 := by
    rw [List.length_drop, h, Nat.add_sub_cancel_left]
  rw [bytes_ofBytes_of_le (by omega), List.take_of_length_le (Nat.le_of_eq hport),
    Bytes.ofUInt16_toUInt16 hport, List.take_append_drop]

end Octets

/-- A version of the Internet protocol. -/
inductive IpVersion where
  | four
  | six
  deriving DecidableEq, Repr

namespace IpVersion

/-- The number of octets of an address. -/
def width : IpVersion → Nat
  | four => 4
  | six => 16

/-- The family that a payload starts with. -/
def family : IpVersion → Family
  | four => .inet
  | six => .inet6

/-- The sockets of a version. -/
def Host : IpVersion → Type
  | four => Ipv4Socket
  | six => Ipv6Socket

/-- The octets of a socket. -/
def address : (v : IpVersion) → v.Host → Octets v.width
  | four => Ipv4Socket.address
  | six => Ipv6Socket.address

/-- The port of a socket. -/
def port : (v : IpVersion) → v.Host → UInt16
  | four => Ipv4Socket.port
  | six => Ipv6Socket.port

/-- A socket that has octets and a port, and nothing beside them. -/
def ofParts : (v : IpVersion) → Octets v.width → UInt16 → v.Host
  | four, octets, port => Ipv4Socket.mk octets port
  | six, octets, port => { address := octets, port := port : Ipv6Socket }

/-- The bytes of a socket. -/
def toBytes (v : IpVersion) (host : v.Host) : Bytes :=
  (v.address host).bytes ++ Bytes.ofUInt16 (v.port host)

/-- A socket from the front of a byte string. -/
def ofBytes (v : IpVersion) (bs : Bytes) : v.Host :=
  v.ofParts (.ofBytes bs) (Bytes.toUInt16 ((bs.drop v.width).take 2))

/-- A socket as records keep it. -/
def bare (v : IpVersion) (host : v.Host) : v.Host := v.ofParts (v.address host) (v.port host)

/-- A socket that nothing is known of. -/
def zero (v : IpVersion) : v.Host :=
  v.ofParts ⟨List.replicate v.width 0, List.length_replicate⟩ 0

variable (v : IpVersion)

@[simp] theorem address_ofParts (octets : Octets v.width) (port : UInt16) :
    v.address (v.ofParts octets port) = octets := by
  cases v <;> rfl

@[simp] theorem port_ofParts (octets : Octets v.width) (port : UInt16) :
    v.port (v.ofParts octets port) = port := by
  cases v <;> rfl

/-- A socket is written as its octets and two bytes for its port. -/
@[simp] theorem length_toBytes (host : v.Host) : (v.toBytes host).length = v.width + 2 := by
  rw [toBytes, List.length_append, (v.address host).length_bytes, Bytes.length_ofUInt16]

/-- A socket is read from the front of a byte string that starts with its bytes, less what is not
written. -/
theorem ofBytes_toBytes_append (host : v.Host) (rest : Bytes) :
    v.ofBytes (v.toBytes host ++ rest) = v.bare host := by
  have haddress : Octets.ofBytes (v.toBytes host ++ rest) = v.address host := by
    rw [toBytes, List.append_assoc, Octets.ofBytes_append_bytes]
  rw [ofBytes, haddress, toBytes, Octets.port_behind, bare]

theorem ofBytes_toBytes (host : v.Host) : v.ofBytes (v.toBytes host) = v.bare host := by
  rw [← List.append_nil (v.toBytes host), ofBytes_toBytes_append]

/-- Bytes of the right number are those of the socket that is read from them. -/
theorem toBytes_ofBytes {bs : Bytes} (h : bs.length = v.width + 2) :
    v.toBytes (v.ofBytes bs) = bs := by
  rw [toBytes, ofBytes, address_ofParts, port_ofParts, Octets.ofBytes_append_port h]

@[simp] theorem bare_ofBytes (bs : Bytes) : v.bare (v.ofBytes bs) = v.ofBytes bs := by
  cases v <;> rfl

@[simp] theorem bare_zero : v.bare v.zero = v.zero := by
  cases v <;> rfl

/-! ## Ends, addresses and connections -/

/-- A socket as an end of a connection. -/
def endpoint : (v : IpVersion) → v.Host → Endpoint
  | four => .inet
  | six => .inet6

/-- A socket as an address that is read. -/
def socketAddress : (v : IpVersion) → v.Host → SocketAddress
  | four => .inet
  | six => .inet6

/-- Two sockets as the sides of a connection that is read. -/
def connection : (v : IpVersion) → v.Host → v.Host → Connection
  | four => .inet
  | six => .inet6

@[simp] theorem family_endpoint (host : v.Host) : (v.endpoint host).family = v.family := by
  cases v <;> rfl

theorem family_ne_unix : v.family ≠ .unix := by
  cases v <;> exact nofun

/-- An end of the family of a version is a socket of it. -/
theorem exists_endpoint_of_family {found : Endpoint} (h : found.family = v.family) :
    ∃ host, found = v.endpoint host := by
  cases v with
  | four =>
    cases found with
    | inet host => exact ⟨host, rfl⟩
    | inet6 _ | unix _ => cases h
  | six =>
    cases found with
    | inet6 host => exact ⟨host, rfl⟩
    | inet _ | unix _ => cases h

/-- An address of the Internet is read from a body of exactly its width. -/
theorem decode_socketAddress (body : Bytes) :
    SocketAddress.decode (v.family.tag :: body) =
      if body.length = v.width + 2 then .ok (some (v.socketAddress (v.ofBytes body)))
      else .error (.invalidSize v.family (body.length + 1)) := by
  cases v <;> rfl

/-- The sides of a connection of the Internet are read from a body of exactly twice that width. -/
theorem decode_connection (body : Bytes) :
    Connection.decode (v.family.tag :: body) =
      if body.length = (v.width + 2) * 2 then
        .ok (some (v.connection (v.ofBytes body) (v.ofBytes (body.drop (v.width + 2)))))
      else .error (.invalidSize v.family (body.length + 1)) := by
  cases v <;> rfl

end IpVersion

namespace Endpoint

/-- An end is a socket of some version of the Internet protocol, or a UNIX socket. -/
theorem internet_or_unix (endpoint : Endpoint) :
    (∃ (v : IpVersion) (host : v.Host), endpoint = v.endpoint host) ∨
      ∃ socket, endpoint = unix socket := by
  cases endpoint with
  | inet host => exact .inl ⟨.four, host, rfl⟩
  | inet6 host => exact .inl ⟨.six, host, rfl⟩
  | unix socket => exact .inr ⟨socket, rfl⟩

/-- An end of the UNIX family is a UNIX socket. -/
theorem exists_unix_of_family {found : Endpoint} (h : found.family = .unix) :
    ∃ socket, found = unix socket := by
  cases found with
  | unix socket => exact ⟨socket, rfl⟩
  | inet _ | inet6 _ => cases h

/-- Two ends of one family are sockets of one version, or two UNIX sockets. -/
theorem pair_of_family_eq {here there : Endpoint} (h : there.family = here.family) :
    (∃ (v : IpVersion) (host peer : v.Host),
      here = v.endpoint host ∧ there = v.endpoint peer) ∨
      ∃ socket peer, here = unix socket ∧ there = unix peer := by
  rcases here.internet_or_unix with ⟨v, host, rfl⟩ | ⟨socket, rfl⟩
  · rw [IpVersion.family_endpoint] at h
    obtain ⟨peer, rfl⟩ := v.exists_endpoint_of_family h
    exact .inl ⟨v, host, peer, rfl, rfl⟩
  · obtain ⟨peer, rfl⟩ := exists_unix_of_family h
    exact .inr ⟨socket, peer, rfl, rfl⟩

end Endpoint

end SyscallTrace
