import SyscallTrace.Proofs.Net.Versions

/-!
# Packed connections

A socket that packs its connection writes the bytes of some `Connection`, and which one that is does
not depend on what the buffer holds. For the Internet families it joins the two ends that the socket
chooses; for UNIX sockets it starts with the id of the side that receives and ends with its path
(specification §4.5, §15.2).

A connection is seen from both of its ends. The one that sends and the one that receives each call
their own end the local one, and each has its own code to tell which of the two is the source. Both
still write the same connection.

- `Connection.toBytes`: the bytes of a connection.
- `Socket.pack_chosen`, `Socket.pack_unix`: what a socket packs, for each version of the Internet
  protocol and for UNIX sockets.
- `Connection.ofEnds?`: the connection over which one end sends to another.
- `Socket.pack_from_both_ends`: **both ends of a connection write the same bytes**.
-/

namespace SyscallTrace

namespace Connection

/-- The bytes of a connection. -/
def toBytes : Connection → Bytes
  | inet source dest => Family.inet.tag :: (source.toBytes ++ dest.toBytes)
  | inet6 source dest => Family.inet6.tag :: (source.toBytes ++ dest.toBytes)
  | unix source dest path =>
    Family.unix.tag :: (Bytes.ofUInt64 source ++ Bytes.ofUInt64 dest ++ (path ++ [0]))

/-- The number of bytes of a connection. -/
def size : Connection → Nat
  | inet _ _ => 1 + (4 + 2) * 2
  | inet6 _ _ => 1 + (16 + 2) * 2
  | unix _ _ path => 1 + 8 + 8 + (path.length + 1)

/-- A connection has as many bytes as the packer says. -/
@[simp] theorem length_toBytes (connection : Connection) :
    connection.toBytes.length = connection.size := by
  cases connection with
  | inet source dest => simp [toBytes, size]
  | inet6 source dest => simp [toBytes, size]
  | unix source dest path =>
    simp only [toBytes, size, List.length_cons, List.length_append, List.length_nil,
      Bytes.length_ofUInt64]
    omega

/-- The bytes of an Internet connection are its family and those of its two sides. -/
theorem toBytes_internet (v : IpVersion) (source dest : v.Host) :
    (v.connection source dest).toBytes =
      v.family.tag :: (v.toBytes source ++ v.toBytes dest) := by
  cases v <;> rfl

theorem size_internet (v : IpVersion) (source dest : v.Host) :
    (v.connection source dest).size = 1 + (v.width + 2) * 2 := by
  cases v <;> rfl

/-- The connection over which one end sends to another, if they are of one family. UNIX sockets are
named in the order in which they receive and send, and the path is that of the one that receives. -/
def ofEnds? : Endpoint → Endpoint → Option Connection
  | .inet sender, .inet receiver => some (.inet sender receiver)
  | .inet6 sender, .inet6 receiver => some (.inet6 sender receiver)
  | .unix sender, .unix receiver => some (.unix receiver.id sender.id receiver.path.wireName)
  | _, _ => none

/-- Two sockets of one version are the sides of a connection, the sending one first. -/
@[simp] theorem ofEnds?_internet (v : IpVersion) (sender receiver : v.Host) :
    ofEnds? (v.endpoint sender) (v.endpoint receiver) = some (v.connection sender receiver) := by
  cases v <;> rfl

end Connection

namespace Socket

variable {socket : Socket} {user : Option Endpoint} {inbound : Bool}

theorem checkFamily_of_eq {found : Endpoint} (h : found.family = socket.localEnd.family) :
    socket.checkFamily (some found) = .ok () :=
  if_pos h

/-! ## What a socket packs -/

/-- A socket of the Internet packs the two ends that it chooses, and zeros for both if it chooses
none. -/
theorem pack_chosen (v : IpVersion) {here : v.Host} (chosen : Option (v.Host × v.Host))
    (hpeer : socket.checkFamily socket.peer = .ok ()) (huser : socket.checkFamily user = .ok ())
    (hlocal : socket.localEnd = v.endpoint here)
    (hends : socket.ends user inbound =
      chosen.map fun ends => (v.endpoint ends.1, v.endpoint ends.2)) (out : Bytes) :
    let ends := chosen.getD (v.zero, v.zero)
    let connection := v.connection ends.1 ends.2
    socket.pack user inbound out = (.ok connection.toBytes.length, out ++ connection.toBytes) := by
  intro ends connection
  rw [pack, hpeer, huser, hlocal, hends, Connection.length_toBytes, Connection.size_internet,
    Connection.toBytes_internet, List.append_cons out v.family.tag]
  cases chosen with
  | some ends => cases v <;> rfl
  | none =>
    -- the body is a run of zeros, as many as two sockets have that nothing is known of
    show _ = (_, _ ++ (v.toBytes v.zero ++ v.toBytes v.zero))
    cases v <;> rfl

/-- A socket of the Internet with a far end packs the two in their order. -/
theorem pack_internet (v : IpVersion) {here source dest : v.Host}
    (hpeer : socket.checkFamily socket.peer = .ok ()) (huser : socket.checkFamily user = .ok ())
    (hlocal : socket.localEnd = v.endpoint here)
    (hends : socket.ends user inbound = some (v.endpoint source, v.endpoint dest)) (out : Bytes) :
    let connection := v.connection source dest
    socket.pack user inbound out = (.ok connection.toBytes.length, out ++ connection.toBytes) :=
  pack_chosen v (some (source, dest)) hpeer huser hlocal hends out

/-- A socket of the Internet that has no far end packs zeros for both. -/
theorem pack_alone (v : IpVersion) {here : v.Host} (hpeer : socket.checkFamily socket.peer = .ok ())
    (huser : socket.checkFamily user = .ok ()) (hlocal : socket.localEnd = v.endpoint here)
    (hends : socket.ends user inbound = none) (out : Bytes) :
    let connection := v.connection v.zero v.zero
    socket.pack user inbound out = (.ok connection.toBytes.length, out ++ connection.toBytes) :=
  pack_chosen v none hpeer huser hlocal hends out

/-- A UNIX socket packs its own id and that of its peer, zero if it has none. The one that receives
comes first. -/
theorem pack_unix {here : UnixEndpoint} (hpeer : socket.checkFamily socket.peer = .ok ())
    (huser : socket.checkFamily user = .ok ()) (hlocal : socket.localEnd = .unix here)
    (out : Bytes) :
    let peer := socket.peer.bind unixEnd?
    let peerId := (peer.map (·.id)).getD 0
    let path := (unixPath here peer (user.bind unixEnd?) inbound).wireName
    let connection :=
      if inbound then Connection.unix here.id peerId path else .unix peerId here.id path
    socket.pack user inbound out = (.ok connection.toBytes.length, out ++ connection.toBytes) := by
  intro peer peerId path connection
  rw [pack, hpeer, huser, hlocal, Connection.length_toBytes]
  show (_, out ++ [Family.unix.tag] ++ _ ++ (path ++ [0])) = _
  rw [List.append_assoc, List.append_assoc]
  cases inbound <;> rfl

/-! ## Both ends -/

/-- **Both ends of a connection write the same bytes.** One end sends to another one of its family,
and neither is told an address by its caller. Then the record of the sending side and that of the
receiving side get the same bytes, which are those of the connection between them, behind whatever
they hold, and both are told the number of these bytes. -/
theorem pack_from_both_ends {sender receiver : Endpoint} (h : sender.family = receiver.family) :
    ∃ connection, Connection.ofEnds? sender receiver = some connection ∧
      (∀ out, pack ⟨sender, some receiver⟩ none false out =
        (.ok connection.toBytes.length, out ++ connection.toBytes)) ∧
      ∀ out, pack ⟨receiver, some sender⟩ none true out =
        (.ok connection.toBytes.length, out ++ connection.toBytes) := by
  have hreceiver : checkFamily ⟨sender, some receiver⟩ (some receiver) = .ok () :=
    checkFamily_of_eq h.symm
  have hsender : checkFamily ⟨receiver, some sender⟩ (some sender) = .ok () :=
    checkFamily_of_eq h
  obtain ⟨v, source, dest, rfl, rfl⟩ | ⟨source, dest, rfl, rfl⟩ := Endpoint.pair_of_family_eq h.symm
  · refine ⟨v.connection source dest, Connection.ofEnds?_internet v source dest, ?_, ?_⟩
    · exact pack_internet v hreceiver rfl rfl rfl
    · exact pack_internet v hsender rfl rfl rfl
  · refine ⟨.unix dest.id source.id dest.path.wireName, rfl, ?_, ?_⟩
    · exact pack_unix hreceiver rfl rfl
    · exact pack_unix hsender rfl rfl

/-- A socket without a name sends to one that has an abstract name, and each writes behind what it
holds. -/
theorem unnamed_sends_to_abstract :
    let sender : Endpoint := .unix ⟨0x1000, .unavailable⟩
    let receiver : Endpoint := .unix ⟨0x2000, .abstract [100, 98, 0, 7]⟩
    let bytes : Bytes := [1, 0, 32, 0, 0, 0, 0, 0, 0, 0, 16, 0, 0, 0, 0, 0, 0, 100, 98, 0]
    sender.family = receiver.family ∧
      pack ⟨sender, some receiver⟩ none false [7] = (.ok 20, 7 :: bytes) ∧
      pack ⟨receiver, some sender⟩ none true [] = (.ok 20, bytes) := by
  intro sender receiver bytes
  have hfamily : sender.family = receiver.family := rfl
  obtain ⟨connection, hconnection, hsender, hreceiver⟩ := pack_from_both_ends hfamily
  cases hconnection
  exact ⟨hfamily, hsender [7], hreceiver []⟩

end Socket

end SyscallTrace
