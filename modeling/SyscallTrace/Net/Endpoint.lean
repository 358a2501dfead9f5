import SyscallTrace.Net.Payload
import SyscallTrace.Net.UnixPath

/-!
# Packing sockets into payloads

The counterpart of `SyscallTrace.Net.Payload`: an `Endpoint` is one end of a connection as the
kernel knows it, a `Socket` has a local end and maybe a peer (specification §4.5, §15.2).

- `Endpoint.pack` writes the address of one end.
- `Socket.pack` writes both ends of a connection. The source of an Internet connection is the side
  that sends; the ids of a UNIX connection start with the side that receives.

Both write after the bytes that a buffer already holds, and tell how many bytes they wrote.
-/

namespace SyscallTrace

/-- A UNIX socket: the id that the kernel gave it and what it is bound to. -/
structure UnixEndpoint where
  id : UInt64
  path : UnixPath
  deriving DecidableEq, Repr

/-- One end of a connection. -/
inductive Endpoint where
  | inet (socket : Ipv4Socket)
  | inet6 (socket : Ipv6Socket)
  | unix (socket : UnixEndpoint)
  deriving DecidableEq, Repr

/-- The bytes of an address and a port. -/
def Ipv4Socket.toBytes (s : Ipv4Socket) : Bytes := s.address.bytes ++ Bytes.ofUInt16 s.port

/-- The bytes of an address and a port. Flow and scope are not kept. -/
def Ipv6Socket.toBytes (s : Ipv6Socket) : Bytes := s.address.bytes ++ Bytes.ofUInt16 s.port

@[simp] theorem Ipv4Socket.length_toBytes (s : Ipv4Socket) : s.toBytes.length = 6 := by
  simp [toBytes, s.address.length_bytes]

@[simp] theorem Ipv6Socket.length_toBytes (s : Ipv6Socket) : s.toBytes.length = 18 := by
  simp [toBytes, s.address.length_bytes]

namespace Endpoint

/-- The family of an end. -/
def family : Endpoint → Family
  | .inet _ => .inet
  | .inet6 _ => .inet6
  | .unix _ => .unix

/-- The port of an end, which a UNIX socket does not have. -/
def port? : Endpoint → Option UInt16
  | .inet s => some s.port
  | .inet6 s => some s.port
  | .unix _ => none

/-- Writes the address of an end after `out`, and tells how many bytes that took. -/
def pack (endpoint : Endpoint) (out : Bytes) : Nat × Bytes :=
  let out := out ++ [endpoint.family.tag]
  match endpoint with
  | .inet s => (1 + (4 + 2), out ++ s.toBytes)
  | .inet6 s => (1 + (16 + 2), out ++ s.toBytes)
  | .unix s => (1 + (s.path.wireName.length + 1), out ++ s.path.toBytes)

end Endpoint

/-- A socket, as the kernel knows it. -/
structure Socket where
  localEnd : Endpoint
  peer : Option Endpoint
  deriving DecidableEq, Repr

/-- Why a connection cannot be packed. -/
inductive PackError where
  | familyMismatch (expected found : Family)
  deriving DecidableEq, Repr

/-- Names the two families. -/
def PackError.message : PackError → String
  | .familyMismatch expected found =>
    s!"address family {found.name} doesn't match socket family {expected.name}"

namespace Socket

/-- Demands that an address, if there is one, is of the family of the local end. -/
def checkFamily (socket : Socket) : Option Endpoint → Except PackError Unit
  | some found =>
    if found.family = socket.localEnd.family then .ok ()
    else .error (.familyMismatch socket.localEnd.family found.family)
  | none => .ok ()

/-- The remote end of an Internet connection. The kernel does not know the peer of a socket that
is not connected, so the address that the caller passed comes first. When data comes in, the peer
comes first instead, unless its port is zero and the caller passed an address. -/
def remote (socket : Socket) (user : Option Endpoint) (inbound : Bool) : Option Endpoint :=
  match user, inbound with
  | none, _ => socket.peer
  | some user, false => some user
  | some user, true =>
    match socket.peer with
    | some peer => if peer.port? = some 0 then some user else some peer
    | none => some user

/-- Source and destination of an Internet connection, none if there is no remote end. -/
def ends (socket : Socket) (user : Option Endpoint) (inbound : Bool) :
    Option (Endpoint × Endpoint) :=
  (socket.remote user inbound).map fun remote =>
    if inbound then (remote, socket.localEnd) else (socket.localEnd, remote)

/-- The path of a UNIX connection, which is that of the receiving side. When data goes out, the
address that the caller passed stands in for a peer without a path. -/
def unixPath (here : UnixEndpoint) (peer user : Option UnixEndpoint) (inbound : Bool) : UnixPath :=
  if inbound then here.path
  else
    match peer, user with
    | some peer, none => peer.path
    | some peer, some user => if peer.path.isUnavailable then user.path else peer.path
    | none, some user => user.path
    | none, none => .unavailable

/-- The UNIX socket that an end is. -/
def unixEnd? : Endpoint → Option UnixEndpoint
  | .unix s => some s
  | _ => none

/-- Writes both ends of a connection after `out`, and tells how many bytes that took. The ends of
an Internet connection are all zero when there is no remote one. If an address is of another
family than the socket, nothing is written. -/
def pack (socket : Socket) (user : Option Endpoint) (inbound : Bool) (out : Bytes) :
    Except PackError Nat × Bytes :=
  match socket.checkFamily socket.peer, socket.checkFamily user with
  | .error e, _ => (.error e, out)
  | .ok _, .error e => (.error e, out)
  | .ok _, .ok _ =>
    let front := out ++ [socket.localEnd.family.tag]
    match socket.localEnd with
    | .inet _ =>
      let body :=
        match socket.ends user inbound with
        | some (.inet source, .inet dest) => source.toBytes ++ dest.toBytes
        | _ => List.replicate 12 0
      (.ok (1 + (4 + 2) * 2), front ++ body)
    | .inet6 _ =>
      let body :=
        match socket.ends user inbound with
        | some (.inet6 source, .inet6 dest) => source.toBytes ++ dest.toBytes
        | _ => List.replicate 36 0
      (.ok (1 + (16 + 2) * 2), front ++ body)
    | .unix here =>
      let peer := socket.peer.bind unixEnd?
      let peerId := (peer.map (·.id)).getD 0
      let path := unixPath here peer (user.bind unixEnd?) inbound
      let ids :=
        if inbound then Bytes.ofUInt64 here.id ++ Bytes.ofUInt64 peerId
        else Bytes.ofUInt64 peerId ++ Bytes.ofUInt64 here.id
      (.ok (1 + 8 + 8 + (path.wireName.length + 1)), front ++ ids ++ path.toBytes)

end Socket

end SyscallTrace
