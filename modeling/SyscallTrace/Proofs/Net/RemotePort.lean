import SyscallTrace.Capture.Snaplen
import SyscallTrace.Proofs.Net.Connections

/-!
# The remote port that is recorded and the one that classifies

The remote port of an Internet connection is used twice. The record names it, as that of the far end
of the connection, and the snap length of the payload depends on it, as that of a `PortPair`. Both
take the port of the peer, and both turn to the address that the caller passed (specification
§15.1, §15.2).

They do so on different terms. The pair of ports turns to that address only when the peer has no
port. So does the record when data comes in, but what goes out is recorded as going to that address
in any case. Hence the two ports are the same, unless data goes out to an address that was passed
although the socket has a peer.

- `Socket.remote_port_of_pack`: **when the recorded port is the one that classifies**, and which
  ports these are when they differ.
-/

namespace SyscallTrace

/-- The port of a side, which a UNIX socket does not have. -/
def Party.port? : Party → Option UInt16
  | .inet s => some s.port
  | .inet6 s => some s.port
  | .unix _ => none

/-- The side of a connection that is not the local one. -/
def Connection.remote (connection : Connection) (inbound : Bool) : Party :=
  if inbound then connection.source else connection.dest

theorem Endpoint.exists_port_of_family {here found : Endpoint} {port : UInt16}
    (h : found.family = here.family) (hport : here.port? = some port) :
    ∃ port, found.port? = some port := by
  cases found with
  | inet s => exact ⟨s.port, rfl⟩
  | inet6 s => exact ⟨s.port, rfl⟩
  | unix s =>
    cases here with
    | inet _ | inet6 _ => cases h
    | unix _ => cases hport

theorem PortPair.remotePort_orUserPort (ports : PortPair) (port : Option UInt16) :
    (ports.orUserPort port).remotePort =
      if ports.remotePort = 0 then port.getD 0 else ports.remotePort := by
  rw [orUserPort]
  split <;> rfl

namespace Socket

variable {socket : Socket} {user : Option Endpoint} {inbound : Bool} {localPort : UInt16}

/-- The port of the far end of a connection, zero if there is none. -/
def farPort (socket : Socket) (user : Option Endpoint) (inbound : Bool) : UInt16 :=
  ((socket.farEnd user inbound).bind Endpoint.port?).getD 0

/-- The port of the peer, zero if there is none. -/
def peerPort (socket : Socket) : UInt16 := (socket.peer.bind Endpoint.port?).getD 0

/-- A record names the port of the far end. -/
theorem Tells.port_remote {connection : Connection} (h : socket.Tells user inbound connection)
    (hlocal : socket.localEnd.port? = some localPort) :
    (connection.remote inbound).port? = some (socket.farPort user inbound) := by
  rw [farPort]
  cases h with
  | inet _ hfar | inetAlone _ hfar | inet6 _ hfar | inet6Alone _ hfar =>
    rw [hfar]
    cases inbound <;> rfl
  | unix hhere source dest =>
    rw [hhere] at hlocal
    cases hlocal

/-! ## The port of the far end -/

theorem farPort_of_not_passed : socket.farPort none inbound = socket.peerPort := by
  rw [farPort, ← remote_eq_farEnd, peerPort]
  rfl

/-- Data goes out to the address that the caller passed. -/
theorem farPort_of_outbound {found : Endpoint} {port : UInt16} (hport : found.port? = some port) :
    socket.farPort (some found) false = port := by
  show (found.port?).getD 0 = port
  rw [hport]
  rfl

/-- Data comes in from the peer, or from the address that the caller passed when the peer has no
port. -/
theorem farPort_of_inbound {found : Endpoint} {port : UInt16} (hport : found.port? = some port)
    (hpeer : ∀ peer ∈ socket.peer, ∃ port, peer.port? = some port) :
    socket.farPort (some found) true =
      if socket.peerPort = 0 then port else socket.peerPort := by
  rw [farPort, ← remote_eq_farEnd, peerPort, remote]
  cases hsome : socket.peer with
  | none => simp [hport]
  | some peer =>
    obtain ⟨other, hother⟩ := hpeer peer hsome
    by_cases hzero : other = 0 <;> simp [hother, hzero, hport]

/-- The port of the far end is the one that classifies, unless data goes out to an address that was
passed beside a peer. -/
theorem farPort_eq_remotePort (hlocal : socket.localEnd.port? = some localPort)
    (hfamily : socket.OneFamily user)
    (h : inbound = true ∨ user = none ∨ socket.peerPort = 0) :
    socket.farPort user inbound =
      (PortPair.orUserPort ⟨localPort, socket.peerPort⟩ (user.bind Endpoint.port?)).remotePort := by
  rw [PortPair.remotePort_orUserPort]
  cases user with
  | none =>
    rw [farPort_of_not_passed]
    split
    · assumption
    · rfl
  | some found =>
    obtain ⟨port, hport⟩ := Endpoint.exists_port_of_family (hfamily.user found rfl) hlocal
    have hpeer : ∀ peer ∈ socket.peer, ∃ port, peer.port? = some port :=
      fun peer hsome => Endpoint.exists_port_of_family (hfamily.peer peer hsome) hlocal
    rw [Option.bind_some, hport, Option.getD_some]
    -- Coming in, the two rules are the same. Going out, they are so if the peer has no port.
    cases inbound with
    | true => exact farPort_of_inbound hport hpeer
    | false =>
      rcases h with h | h | h
      · cases h
      · cases h
      · rw [farPort_of_outbound hport, if_pos h]

/-! ## The recorded port -/

/-- **The recorded port is the one that classifies, unless a connected socket sends to an address
that it is passed.** A socket of the Internet and the address that its caller may pass are of one
family. What it packs decodes to a connection whose remote port is that of the `PortPair` that the
peer and the passed address make: when data comes in, when no address is passed, and when the socket
has no peer or one without a port. When data goes out to an address that was passed beside a peer
with a port, the record has the port of that address, and the pair has that of the peer. -/
theorem remote_port_of_pack (hlocal : socket.localEnd.port? = some localPort)
    (hfamily : socket.OneFamily user) (inbound : Bool) (out : Bytes) :
    let ports := PortPair.orUserPort ⟨localPort, socket.peerPort⟩ (user.bind Endpoint.port?)
    ∃ bytes connection port,
      socket.pack user inbound out = (.ok bytes.length, out ++ bytes) ∧
      Connection.decode bytes = .ok (some connection) ∧
      (connection.remote inbound).port? = some port ∧
      (inbound = true ∨ user = none ∨ socket.peerPort = 0 → port = ports.remotePort) ∧
      (inbound = false → user ≠ none → socket.peerPort ≠ 0 →
        user.bind Endpoint.port? = some port ∧ ports.remotePort = socket.peerPort) := by
  intro ports
  obtain ⟨bytes, connection, hpack, hdecode, htells⟩ := pack_of_oneFamily hfamily inbound out
  refine ⟨bytes, connection, socket.farPort user inbound, hpack, hdecode,
    htells.port_remote hlocal, farPort_eq_remotePort hlocal hfamily, ?_⟩
  intro houtbound hpassed hpeer
  obtain ⟨found, rfl⟩ := Option.ne_none_iff_exists'.mp hpassed
  obtain ⟨port, hport⟩ := Endpoint.exists_port_of_family (hfamily.user found rfl) hlocal
  refine ⟨?_, ?_⟩
  · rw [houtbound, farPort_of_outbound hport]
    exact hport
  · rw [PortPair.remotePort_orUserPort, if_neg hpeer]

/-- A connected socket is passed the port of a name server. It is recorded as sending to that port,
and its payload is classified by the port of its peer. -/
theorem remote_port_of_connected_sender :
    let socket : Socket :=
      ⟨.inet ⟨.ofBytes [10, 0, 0, 1], 5000⟩, some (.inet ⟨.ofBytes [10, 0, 0, 2], 80⟩)⟩
    let server : Endpoint := .inet ⟨.ofBytes [10, 0, 0, 2], 53⟩
    socket.localEnd.port? = some 5000 ∧ socket.OneFamily (some server) ∧
      ∃ bytes connection, socket.pack (some server) false [7] = (.ok bytes.length, [7] ++ bytes) ∧
        Connection.decode bytes = .ok (some connection) ∧
        (connection.remote false).port? = some 53 ∧
        (PortPair.orUserPort ⟨5000, socket.peerPort⟩ (some 53)).remotePort = 80 := by
  intro socket server
  have hlocal : socket.localEnd.port? = some 5000 := rfl
  have hfamily : socket.OneFamily (some server) := oneFamily_of_eq rfl rfl
  obtain ⟨bytes, connection, port, hpack, hdecode, hport, -, hdiffer⟩ :=
    remote_port_of_pack hlocal hfamily false [7]
  obtain ⟨hpassed, hremote⟩ := hdiffer rfl (fun h => (nomatch h)) (by decide)
  cases hpassed
  exact ⟨hlocal, hfamily, bytes, connection, hpack, hdecode, hport, hremote⟩

/-- It is not true of every socket and direction that the recorded port is the one that classifies.
A socket that is connected to one port and sends to another is recorded with the latter. -/
theorem remote_port_not_always_classifies :
    ¬ ∀ (socket : Socket) (user : Option Endpoint) (localPort : UInt16) (inbound : Bool)
      (out : Bytes), socket.localEnd.port? = some localPort → socket.OneFamily user →
        let ports := PortPair.orUserPort ⟨localPort, socket.peerPort⟩ (user.bind Endpoint.port?)
        ∃ bytes connection,
          socket.pack user inbound out = (.ok bytes.length, out ++ bytes) ∧
          Connection.decode bytes = .ok (some connection) ∧
          (connection.remote inbound).port? = some ports.remotePort := by
  intro hall
  let socket : Socket :=
    ⟨.inet ⟨.ofBytes [10, 0, 0, 1], 5000⟩, some (.inet ⟨.ofBytes [10, 0, 0, 2], 80⟩)⟩
  let server : Endpoint := .inet ⟨.ofBytes [10, 0, 0, 2], 53⟩
  have hfamily : socket.OneFamily (some server) := oneFamily_of_eq rfl rfl
  obtain ⟨bytes, connection, hpack, hdecode, hport⟩ :=
    hall socket (some server) 5000 false [] rfl hfamily
  obtain ⟨packed, told, hpacked, htold, htells⟩ := pack_of_oneFamily hfamily false []
  have hfar : (told.remote false).port? = some 53 := by
    rw [htells.port_remote rfl, farPort_of_outbound rfl]
  rw [hpacked] at hpack
  obtain rfl : packed = bytes := (Prod.mk.inj hpack).2
  rw [htold] at hdecode
  cases hdecode
  rw [hport] at hfar
  exact absurd hfar (by decide)

end Socket

end SyscallTrace
