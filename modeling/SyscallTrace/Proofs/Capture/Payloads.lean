import SyscallTrace.Proofs.Capture.Content
import SyscallTrace.Proofs.Net.Connections
import SyscallTrace.Proofs.Net.Descriptors
import SyscallTrace.Record.Param

/-!
# Payloads that are read back

Three kinds of values are rendered before they are recorded: the address of a socket, the two ends
of a connection, and a list of descriptors (specification §4.3, §15.2). Their bytes are what the
packers write, so a parameter that holds them gives back what the packers keep. A value that is
absent has no bytes, and neither has a connection whose ends are not of one family; both are read as
absent.

- `Value.descriptorBytes_of_le`: a list that the count can tell is written as it is.
- `Value.address?_content`, `Value.connection?_content`, `Value.descriptors_content`: what the
  accessors give for the bytes of the three kinds.
-/

namespace SyscallTrace

/-- A list is read back from a parameter that holds its bytes. -/
theorem Param.descriptors_encodeList {type : ParamType} (h : type = .fdlist)
    {list : List Descriptor} (hlength : list.length < UInt16.size) :
    Param.descriptors ⟨type, Descriptor.encodeList list⟩ = .ok list := by
  rw [Param.descriptors_eq h, Descriptor.decodeList_encodeList hlength]
  rfl

namespace Value

/-- A list that the count can tell is written as it is. -/
theorem descriptorBytes_of_le {list : List Descriptor} (h : list.length ≤ 0xFFFF) :
    descriptorBytes list = Descriptor.encodeList list := by
  rw [descriptorBytes, List.take_of_length_le h, Descriptor.encodeList]

variable {type : ParamType} {settings : CaptureSettings} {memory : Memory} {room : Nat}

/-- The address of a socket is read back as far as it is packed. -/
theorem address?_content (h : type = .sockaddr) (endpoint : Option Endpoint) :
    Param.address? ⟨type, (address endpoint).content settings memory room⟩ =
      .ok (endpoint.map Endpoint.address) := by
  rw [Param.address?_eq h]
  cases endpoint with
  | none => rfl
  | some endpoint =>
    show (SocketAddress.decode (endpoint.pack []).2).mapError _ = _
    rw [endpoint.pack_eq, List.nil_append, endpoint.decode_toBytes]
    rfl

/-- The connection that a socket is to tell of is read back. -/
theorem connection?_content (h : type = .socktuple) {socket : Socket} {user : Option Endpoint}
    (hfamily : socket.OneFamily user) (inbound : Bool) :
    ∃ told, socket.Tells user inbound told ∧
      Param.connection? ⟨type, (connection socket user inbound).content settings memory room⟩ =
        .ok (some told) := by
  obtain ⟨bytes, told, hpack, hdecode, htells⟩ := Socket.pack_of_oneFamily hfamily inbound []
  refine ⟨told, htells, ?_⟩
  rw [Param.connection?_eq h]
  show (Connection.decode (socket.pack user inbound []).2).mapError _ = _
  rw [hpack, List.nil_append, hdecode]
  rfl

/-- No connection is read back if there is no socket, or if it has nothing to tell of. -/
theorem connection?_content_absent (h : type = .socktuple) {socket : Option Socket}
    {user : Option Endpoint} (hfamily : ∀ s ∈ socket, ¬ s.OneFamily user) (inbound : Bool) :
    Param.connection? ⟨type, (connection socket user inbound).content settings memory room⟩ =
      .ok none := by
  rw [Param.connection?_eq h]
  cases socket with
  | none => rfl
  | some socket =>
    obtain ⟨found, -, -, hpack⟩ := Socket.pack_of_not_oneFamily (hfamily socket rfl) inbound []
    show (Connection.decode (socket.pack user inbound []).2).mapError _ = _
    rw [hpack]
    rfl

/-- A list of descriptors that the count can tell is read back. An absent one is read as empty. -/
theorem descriptors_content (h : type = .fdlist) {list : Option (List Descriptor)}
    (hlength : ∀ l ∈ list, l.length < UInt16.size) :
    Param.descriptors ⟨type, (descriptors list).content settings memory room⟩ =
      .ok (list.getD []) := by
  cases list with
  | none =>
    rw [Param.descriptors_eq h]
    rfl
  | some list =>
    show Param.descriptors ⟨type, descriptorBytes list⟩ = .ok list
    rw [descriptorBytes_of_le (Nat.le_of_lt_succ (hlength list rfl))]
    exact Param.descriptors_encodeList h (hlength list rfl)

end Value

end SyscallTrace
