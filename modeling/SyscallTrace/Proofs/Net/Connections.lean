import SyscallTrace.Proofs.Net.Addresses
import SyscallTrace.Proofs.Net.Packing

/-!
# What a record tells of a connection

A socket packs its connection, and a reader of the record gets a connection back. Which one that is
depends on the ends that the socket knows, on an address that the caller may have passed, and on the
direction of the data (specification §15.2).

The far end of an Internet connection is chosen by `Socket.farEnd`, the path of a UNIX connection by
`Socket.farPath`. `Socket.Tells` says which connection they make, with one rule for each kind of
socket. It leaves the ids of UNIX sockets open; which of the two comes first is a matter of the
direction alone.

- `Connection.decode_internet`, `Connection.decode_unix`: what is read back of the bytes of a
  connection.
- `Socket.pack_tells`: **a socket of one family packs the connection that it is to tell of, and any
  other packs nothing**.
- `Socket.sides_of_pack`: **the side that sends is the source of an Internet connection**. UNIX
  sockets are named the other way round, the receiving one as the source.
-/

namespace SyscallTrace

/-! ## Reading a connection -/

/-- An IPv4 socket that nothing is known of. -/
def Ipv4Socket.zero : Ipv4Socket := ⟨⟨List.replicate 4 0, List.length_replicate⟩, 0⟩

/-- An IPv6 socket that nothing is known of. -/
def Ipv6Socket.zero : Ipv6Socket :=
  { address := ⟨List.replicate 16 0, List.length_replicate⟩, port := 0 }

namespace Connection

/-- Both sides of an Internet connection are read back, as records keep them. -/
theorem decode_internet (v : IpVersion) (source dest : v.Host) :
    decode (v.connection source dest).toBytes =
      .ok (some (v.connection (v.bare source) (v.bare dest))) := by
  have hlength : (v.toBytes source ++ v.toBytes dest).length = (v.width + 2) * 2 := by
    rw [List.length_append, v.length_toBytes, v.length_toBytes, Nat.mul_two]
  rw [toBytes_internet, v.decode_connection, if_pos hlength, v.ofBytes_toBytes_append,
    List.drop_left' (v.length_toBytes source), v.ofBytes_toBytes]

/-- The ids and the path of a UNIX connection are read from a body that has room for the ids. -/
theorem decode_unix_cons (body : Bytes) :
    decode (Family.unix.tag :: body) =
      if body.length ≥ 16 then
        .ok (some (.unix (Bytes.toUInt64 (body.take 8)) (Bytes.toUInt64 ((body.drop 8).take 8))
          (Bytes.beforeNul (body.drop 16))))
      else .error (.invalidSize .unix (body.length + 1)) :=
  rfl

/-- A UNIX connection is read back if its path has no NUL. -/
theorem decode_unix {path : Bytes} (h : 0 ∉ path) (source dest : UInt64) :
    decode (unix source dest path).toBytes = .ok (some (.unix source dest path)) := by
  -- The two ids fill the first sixteen bytes, and the path starts behind them.
  let ids := Bytes.ofUInt64 source ++ Bytes.ofUInt64 dest
  have hids : ids.length = 16 := by
    rw [List.length_append, Bytes.length_ofUInt64, Bytes.length_ofUInt64]
  have hlength : 16 ≤ (ids ++ (path ++ [0])).length := by
    rw [List.length_append, hids]
    exact Nat.le_add_right 16 _
  have hsource : (ids ++ (path ++ [0])).take 8 = Bytes.ofUInt64 source := by
    rw [List.append_assoc, List.take_left' (Bytes.length_ofUInt64 source)]
  have hdest : ((ids ++ (path ++ [0])).drop 8).take 8 = Bytes.ofUInt64 dest := by
    rw [List.append_assoc, List.drop_left' (Bytes.length_ofUInt64 source),
      List.take_left' (Bytes.length_ofUInt64 dest)]
  rw [toBytes, decode_unix_cons, if_pos hlength, hsource, hdest, List.drop_left' hids,
    Bytes.toUInt64_ofUInt64, Bytes.toUInt64_ofUInt64, Bytes.beforeNul_append_nul h]

end Connection

/-! ## Which connection that is -/

/-- Source and destination of data between one end and the other. -/
def sides {α : Type} (inbound : Bool) (here there : α) : α × α :=
  if inbound then (there, here) else (here, there)

/-- Sides are told apart by the direction alone, whatever is said of them. -/
theorem sides_map {α β : Type} (f : α → β) (inbound : Bool) (here there : α) :
    sides inbound (f here) (f there) =
      (f (sides inbound here there).1, f (sides inbound here there).2) := by
  cases inbound <;> rfl

/-- One side of a connection, as a record names it. -/
inductive Party where
  | inet (socket : Ipv4Socket)
  | inet6 (socket : Ipv6Socket)
  | unix (id : UInt64)
  deriving DecidableEq, Repr

/-- The name of an end in records. -/
def Endpoint.party : Endpoint → Party
  | .inet s => .inet s
  | .inet6 s => .inet6 s.bare
  | .unix s => .unix s.id

/-- The side that a connection calls its source. -/
def Connection.source : Connection → Party
  | .inet source _ => .inet source
  | .inet6 source _ => .inet6 source
  | .unix source _ _ => .unix source

/-- The side that a connection calls its destination. -/
def Connection.dest : Connection → Party
  | .inet _ dest => .inet dest
  | .inet6 _ dest => .inet6 dest
  | .unix _ dest _ => .unix dest

@[simp] theorem IpVersion.source_connection (v : IpVersion) (source dest : v.Host) :
    (v.connection (v.bare source) dest).source = (v.endpoint source).party := by
  cases v <;> rfl

@[simp] theorem IpVersion.dest_connection (v : IpVersion) (source dest : v.Host) :
    (v.connection source (v.bare dest)).dest = (v.endpoint dest).party := by
  cases v <;> rfl

namespace Socket

variable {socket : Socket} {user : Option Endpoint} {inbound : Bool}

/-- The peer and the address that the caller passed are of the family of the socket. -/
structure OneFamily (socket : Socket) (user : Option Endpoint) : Prop where
  peer : ∀ found ∈ socket.peer, found.family = socket.localEnd.family
  user : ∀ found ∈ user, found.family = socket.localEnd.family

/-- The far end of an Internet connection. Data goes out to the address that the caller passed, else
to the peer. It comes in from the peer, unless that has no port and the caller passed an address. -/
def farEnd (socket : Socket) (user : Option Endpoint) (inbound : Bool) : Option Endpoint :=
  if inbound then
    (socket.peer.filter fun peer => user.isNone || peer.port? != some 0).or user
  else user.or socket.peer

/-- The path of the far end of a UNIX connection: that of the peer if it has one, else that of the
address that the caller passed. -/
def farPath (peer user : Option UnixEndpoint) : UnixPath :=
  let found := (peer.map (·.path)).filter fun path => !path.isUnavailable
  (found.or (user.map (·.path))).getD .unavailable

/-- What a socket is to tell of its connection. An Internet connection without a far end is all
zero. -/
inductive Tells (socket : Socket) (user : Option Endpoint) (inbound : Bool) : Connection → Prop
  | inet {here there : Ipv4Socket} (hlocal : socket.localEnd = .inet here)
      (hfar : socket.farEnd user inbound = some (.inet there)) :
      Tells socket user inbound (.inet (sides inbound here there).1 (sides inbound here there).2)
  | inetAlone {here : Ipv4Socket} (hlocal : socket.localEnd = .inet here)
      (hfar : socket.farEnd user inbound = none) :
      Tells socket user inbound (.inet .zero .zero)
  | inet6 {here there : Ipv6Socket} (hlocal : socket.localEnd = .inet6 here)
      (hfar : socket.farEnd user inbound = some (.inet6 there)) :
      Tells socket user inbound
        (.inet6 (sides inbound here there).1.bare (sides inbound here there).2.bare)
  | inet6Alone {here : Ipv6Socket} (hlocal : socket.localEnd = .inet6 here)
      (hfar : socket.farEnd user inbound = none) :
      Tells socket user inbound (.inet6 .zero .zero)
  | unix {here : UnixEndpoint} (hlocal : socket.localEnd = .unix here) (source dest : UInt64) :
      Tells socket user inbound
        (.unix source dest
          (if inbound then here.path
            else farPath (socket.peer.bind unixEnd?) (user.bind unixEnd?)).wireName)

/-- An Internet socket with a far end is to tell of the two, in the order of the direction. -/
theorem tells_internet (v : IpVersion) {here there : v.Host}
    (hlocal : socket.localEnd = v.endpoint here)
    (hfar : socket.farEnd user inbound = some (v.endpoint there)) :
    let ends := sides inbound here there
    socket.Tells user inbound (v.connection (v.bare ends.1) (v.bare ends.2)) := by
  cases v with
  | four => exact .inet hlocal hfar
  | six => exact .inet6 hlocal hfar

/-- An Internet socket without a far end is to tell of nobody. -/
theorem tells_alone (v : IpVersion) {here : v.Host} (hlocal : socket.localEnd = v.endpoint here)
    (hfar : socket.farEnd user inbound = none) :
    socket.Tells user inbound (v.connection v.zero v.zero) := by
  cases v with
  | four => exact .inetAlone hlocal hfar
  | six => exact .inet6Alone hlocal hfar

/-! ### Families -/

/-- An end is let through if it is absent or of the family of the socket, and named as a mismatch
otherwise. -/
theorem checkFamily_cases (socket : Socket) (found : Option Endpoint) :
    ((∀ e ∈ found, e.family = socket.localEnd.family) ∧ socket.checkFamily found = .ok ()) ∨
      ∃ e, found = some e ∧ e.family ≠ socket.localEnd.family ∧
        socket.checkFamily found = .error (.familyMismatch socket.localEnd.family e.family) := by
  cases found with
  | none => exact .inl ⟨fun e he => (nomatch he), rfl⟩
  | some e =>
    by_cases hfamily : e.family = socket.localEnd.family
    · refine .inl ⟨fun found hfound => ?_, if_pos hfamily⟩
      cases hfound
      exact hfamily
    · exact .inr ⟨e, rfl, hfamily, if_neg hfamily⟩

theorem checkFamily_of_forall {found : Option Endpoint}
    (h : ∀ e ∈ found, e.family = socket.localEnd.family) : socket.checkFamily found = .ok () := by
  rcases socket.checkFamily_cases found with ⟨-, hcheck⟩ | ⟨e, hfound, hfamily, -⟩
  · exact hcheck
  · exact absurd (h e hfound) hfamily

/-- The far end is of the family of the socket, since it is the peer or what the caller passed. -/
theorem family_farEnd (h : socket.OneFamily user) :
    ∀ found ∈ socket.farEnd user inbound, found.family = socket.localEnd.family := by
  intro found hfound
  rw [farEnd] at hfound
  split at hfound
  · rcases Option.or_eq_some_iff.mp hfound with hpeer | ⟨-, huser⟩
    · exact h.peer found ((Option.filter_eq_some_iff.mp hpeer).1)
    · exact h.user found huser
  · rcases Option.or_eq_some_iff.mp hfound with huser | ⟨-, hpeer⟩
    · exact h.user found huser
    · exact h.peer found hpeer

theorem oneFamily_of_eq {here there found : Endpoint} (hthere : there.family = here.family)
    (hfound : found.family = here.family) : OneFamily ⟨here, some there⟩ (some found) := by
  refine { peer := fun e he => ?_, user := fun e he => ?_ }
  · cases he
    exact hthere
  · cases he
    exact hfound

/-! ### The ends that are packed -/

/-- The remote end of the packer is the far end. -/
theorem remote_eq_farEnd : socket.remote user inbound = socket.farEnd user inbound := by
  cases user with
  | none =>
    cases inbound <;> cases hpeer : socket.peer <;> simp [remote, farEnd, hpeer, Option.filter]
  | some user =>
    -- The peer's port matters only when data comes in beside an address from the caller.
    cases inbound with
    | false => rfl
    | true =>
      cases hpeer : socket.peer with
      | none => simp [remote, farEnd, hpeer]
      | some peer =>
        by_cases hport : peer.port? = some 0 <;> simp [remote, farEnd, hpeer, hport, Option.filter]

theorem ends_of_farEnd {there : Endpoint} (h : socket.farEnd user inbound = some there) :
    socket.ends user inbound = some (sides inbound socket.localEnd there) := by
  rw [ends, remote_eq_farEnd, h]
  rfl

theorem ends_of_alone (h : socket.farEnd user inbound = none) :
    socket.ends user inbound = none := by
  rw [ends, remote_eq_farEnd, h]
  rfl

/-- The path of the packer is that of the receiving side. -/
theorem unixPath_eq_farPath (here : UnixEndpoint) (peer user : Option UnixEndpoint) :
    unixPath here peer user inbound = if inbound then here.path else farPath peer user := by
  cases inbound with
  | true => rfl
  | false =>
    cases peer with
    | none => cases user <;> rfl
    | some peer =>
      cases hpath : peer.path <;> cases user <;>
        simp [unixPath, farPath, Option.filter, UnixPath.isUnavailable, hpath]

/-! ### What is packed -/

/-- A UNIX socket packs the path of the side that receives, whatever the order of the ids. -/
theorem exists_pack_unix {here : UnixEndpoint} (hpeer : socket.checkFamily socket.peer = .ok ())
    (huser : socket.checkFamily user = .ok ()) (hlocal : socket.localEnd = .unix here)
    (inbound : Bool) (out : Bytes) :
    ∃ source dest,
      let connection := Connection.unix source dest
        (if inbound then here.path
          else farPath (socket.peer.bind unixEnd?) (user.bind unixEnd?)).wireName
      socket.pack user inbound out =
        (.ok connection.toBytes.length, out ++ connection.toBytes) := by
  rw [← unixPath_eq_farPath]
  cases inbound with
  | false => exact ⟨_, _, pack_unix hpeer huser hlocal out⟩
  | true => exact ⟨_, _, pack_unix hpeer huser hlocal out⟩

/-- A socket of one family packs the connection that it is to tell of. -/
theorem pack_of_oneFamily (h : socket.OneFamily user) (inbound : Bool) (out : Bytes) :
    ∃ bytes connection, socket.pack user inbound out = (.ok bytes.length, out ++ bytes) ∧
      Connection.decode bytes = .ok (some connection) ∧ socket.Tells user inbound connection := by
  have hpeer := checkFamily_of_forall h.peer
  have huser := checkFamily_of_forall h.user
  rcases socket.localEnd.internet_or_unix with ⟨v, here, hlocal⟩ | ⟨here, hlocal⟩
  · cases hfar : socket.farEnd user inbound with
    | none =>
      have hdecode := Connection.decode_internet v v.zero v.zero
      rw [v.bare_zero] at hdecode
      exact ⟨_, _, pack_alone v hpeer huser hlocal (ends_of_alone hfar) out, hdecode,
        tells_alone v hlocal hfar⟩
    | some there =>
      -- The far end is of the family of the socket, so it is of its version.
      have hfamily := family_farEnd h there hfar
      have hends := ends_of_farEnd hfar
      rw [hlocal] at hfamily hends
      obtain ⟨there, rfl⟩ := v.exists_endpoint_of_family (hfamily.trans (v.family_endpoint here))
      rw [sides_map] at hends
      exact ⟨_, _, pack_internet v hpeer huser hlocal hends out, Connection.decode_internet v _ _,
        tells_internet v hlocal hfar⟩
  · obtain ⟨source, dest, hpack⟩ := exists_pack_unix hpeer huser hlocal inbound out
    exact ⟨_, _, hpack, Connection.decode_unix (UnixPath.not_mem_wireName _) source dest,
      .unix hlocal source dest⟩

/-- A socket that is given an address of another family packs nothing, and says which family that
is. -/
theorem pack_of_not_oneFamily (h : ¬ socket.OneFamily user) (inbound : Bool) (out : Bytes) :
    ∃ found, (socket.peer = some found ∨ user = some found) ∧
      found.family ≠ socket.localEnd.family ∧
      socket.pack user inbound out =
        (.error (.familyMismatch socket.localEnd.family found.family), out) := by
  rcases socket.checkFamily_cases socket.peer with ⟨hpeer, hcheck⟩ | ⟨e, hfound, hfamily, hcheck⟩
  · rcases socket.checkFamily_cases user with ⟨huser, -⟩ | ⟨e, hfound, hfamily, huser⟩
    · exact absurd ⟨hpeer, huser⟩ h
    · refine ⟨e, .inr hfound, hfamily, ?_⟩
      rw [pack, hcheck, huser]
  · refine ⟨e, .inl hfound, hfamily, ?_⟩
    rw [pack, hcheck]

/-- **A socket packs the connection that it is to tell of, and only within one family.** If the
peer and the address that the caller passed are of the family of the socket, as many bytes as
it says are appended to whatever the buffer holds, and they decode to a connection that
`Socket.Tells` allows. If one of them is not, nothing is written, and the error names its family
and the one of the socket. -/
theorem pack_tells (socket : Socket) (user : Option Endpoint) (inbound : Bool) (out : Bytes) :
    (socket.OneFamily user → ∃ bytes connection,
      socket.pack user inbound out = (.ok bytes.length, out ++ bytes) ∧
        Connection.decode bytes = .ok (some connection) ∧
          socket.Tells user inbound connection) ∧
    (¬ socket.OneFamily user → ∃ found, (socket.peer = some found ∨ user = some found) ∧
      found.family ≠ socket.localEnd.family ∧
        socket.pack user inbound out =
          (.error (.familyMismatch socket.localEnd.family found.family), out)) := by
  constructor
  · intro h
    exact pack_of_oneFamily h inbound out
  · intro h
    exact pack_of_not_oneFamily h inbound out

/-- A socket without a peer hears from a name server, which its caller told it, and is then given
the address of another family. -/
theorem pack_tells_name_server :
    let here : Ipv4Socket := ⟨.ofBytes [10, 0, 0, 1], 5353⟩
    let server : Ipv4Socket := ⟨.ofBytes [8, 8, 8, 8], 53⟩
    let other : Ipv6Socket := { address := .ofBytes [0xFE, 0x80], port := 53 }
    let socket : Socket := ⟨.inet here, none⟩
    (socket.OneFamily (some (.inet server)) ∧ ∃ bytes,
      socket.pack (some (.inet server)) true [7] = (.ok bytes.length, [7] ++ bytes) ∧
        Connection.decode bytes = .ok (some (.inet server here))) ∧
    (¬ socket.OneFamily (some (.inet6 other)) ∧
      socket.pack (some (.inet6 other)) true [7] =
        (.error (.familyMismatch .inet .inet6), [7])) := by
  intro here server other socket
  have hserver : socket.OneFamily (some (.inet server)) := by
    refine { peer := fun found hfound => (nomatch hfound), user := fun found hfound => ?_ }
    cases hfound
    rfl
  have hother : ¬ socket.OneFamily (some (.inet6 other)) := fun h => (nomatch h.user _ rfl)
  refine ⟨⟨hserver, ?_⟩, hother, ?_⟩
  · obtain ⟨bytes, connection, hpack, hdecode, htells⟩ := (pack_tells _ _ true [7]).1 hserver
    refine ⟨bytes, hpack, ?_⟩
    cases htells with
    | inet hlocal hfar =>
      cases hlocal
      cases hfar
      exact hdecode
    | inetAlone hlocal hfar => cases hfar
    | inet6 hlocal _ | inet6Alone hlocal _ | unix hlocal _ _ => cases hlocal
  · obtain ⟨found, hfound | hfound, -, hpack⟩ := (pack_tells _ _ true [7]).2 hother
    · cases hfound
    · cases hfound
      exact hpack

/-! ### Which side is the source -/

/-- Of two UNIX sockets the one that receives becomes the source. -/
theorem sides_of_unix_pair (here there : UnixEndpoint) (inbound : Bool) (out : Bytes) :
    ∃ bytes connection,
      pack ⟨.unix here, some (.unix there)⟩ none inbound out = (.ok bytes.length, out ++ bytes) ∧
      Connection.decode bytes = .ok (some connection) ∧
      (connection.source, connection.dest) =
        sides inbound (Party.unix there.id) (Party.unix here.id) := by
  have hpeer : checkFamily ⟨.unix here, some (.unix there)⟩ (some (.unix there)) = .ok () :=
    checkFamily_of_eq rfl
  have hname := UnixPath.not_mem_wireName
  cases inbound with
  | false => exact ⟨_, _, pack_unix hpeer rfl rfl out, Connection.decode_unix (hname _) _ _, rfl⟩
  | true => exact ⟨_, _, pack_unix hpeer rfl rfl out, Connection.decode_unix (hname _) _ _, rfl⟩

/-- **The side that sends is the source of an Internet connection, and the destination of a UNIX
connection.** A socket has a peer of its own family, and its caller passes no address. What it packs
decodes to a connection between the two, named by address and port or by the ids of the kernel. -/
theorem sides_of_pack {here there : Endpoint} (h : there.family = here.family) (inbound : Bool)
    (out : Bytes) :
    ∃ bytes connection,
      pack ⟨here, some there⟩ none inbound out = (.ok bytes.length, out ++ bytes) ∧
      Connection.decode bytes = .ok (some connection) ∧
      (connection.source, connection.dest) =
        if here.family = .unix then sides inbound there.party here.party
        else sides inbound here.party there.party := by
  have hpeer : checkFamily ⟨here, some there⟩ (some there) = .ok () := checkFamily_of_eq h
  have hends : ends ⟨here, some there⟩ none inbound = some (sides inbound here there) :=
    ends_of_farEnd (by cases inbound <;> rfl)
  obtain ⟨v, here, there, rfl, rfl⟩ | ⟨here, there, rfl, rfl⟩ := Endpoint.pair_of_family_eq h
  · rw [sides_map] at hends
    refine ⟨_, _, pack_internet v hpeer rfl rfl hends out, Connection.decode_internet v _ _, ?_⟩
    rw [v.source_connection, v.dest_connection, v.family_endpoint, if_neg v.family_ne_unix]
    exact (sides_map (fun host => (v.endpoint host).party) inbound here there).symm
  · exact sides_of_unix_pair here there inbound out

/-- A UNIX socket without a name sends to one with a path, which becomes the source. -/
theorem sides_of_unnamed_sender :
    let here : Endpoint := .unix ⟨0x1000, .unavailable⟩
    let there : Endpoint := .unix ⟨0x2000, .pathname [47, 97]⟩
    there.family = here.family ∧ ∃ bytes connection,
      pack ⟨here, some there⟩ none false [7] = (.ok bytes.length, [7] ++ bytes) ∧
      Connection.decode bytes = .ok (some connection) ∧
      (connection.source, connection.dest) = (there.party, here.party) := by
  intro here there
  have hfamily : there.family = here.family := rfl
  exact ⟨hfamily, sides_of_pack hfamily false [7]⟩

/-- It is not true of every family that the side that sends is the source. Of a UNIX connection it
is the destination. -/
theorem sender_not_always_source :
    ¬ ∀ (here there : Endpoint) (inbound : Bool) (out : Bytes), there.family = here.family →
      ∃ bytes connection,
        pack ⟨here, some there⟩ none inbound out = (.ok bytes.length, out ++ bytes) ∧
        Connection.decode bytes = .ok (some connection) ∧
        (connection.source, connection.dest) = sides inbound here.party there.party := by
  intro hall
  let here : UnixEndpoint := ⟨0x1000, .unavailable⟩
  let there : UnixEndpoint := ⟨0x2000, .pathname [47, 97]⟩
  obtain ⟨bytes, connection, hpack, hdecode, hsides⟩ :=
    hall (.unix here) (.unix there) false [] rfl
  obtain ⟨packed, told, hpacked, htold, hswapped⟩ := sides_of_unix_pair here there false []
  rw [hpacked] at hpack
  obtain rfl : packed = bytes := (Prod.mk.inj hpack).2
  rw [htold] at hdecode
  cases hdecode
  rw [hswapped] at hsides
  exact absurd hsides (by decide)

end Socket

end SyscallTrace
