import SyscallTrace.Proofs.Net.Versions

/-!
# Packed addresses

The address of one end is written by one definition and read by another. What they agree on is a
relation between addresses and byte strings, `SocketAddress.Written`, with a rule for each family.
An address of the Internet is its octets and its port, so it has one written form. A path is written
with a NUL behind it, and whatever comes after that NUL is not read, so it has many (specification
§4.5).

Packing keeps less than an end holds: the flow and the scope of an IPv6 socket are dropped, and of a
UNIX path stays what `UnixPath.wireName` says.

- `Endpoint.address`: what a record keeps of an end.
- `SocketAddress.decode_eq_ok_some_iff`: decoding reads an address exactly from its written forms.
- `Endpoint.pack_eq`: an end packs the bytes of its address behind what the buffer holds.
- `Endpoint.pack_decode`: **reading undoes packing, and packing undoes reading**.
-/

namespace SyscallTrace

/-- An IPv6 socket without its flow and its scope, as a record keeps it. -/
def Ipv6Socket.bare (s : Ipv6Socket) : Ipv6Socket := { address := s.address, port := s.port }

@[simp] theorem Ipv6Socket.toBytes_bare (s : Ipv6Socket) : s.bare.toBytes = s.toBytes := rfl

/-! ## Reading an address -/

namespace SocketAddress

/-- The byte strings that stand for an address. -/
inductive Written : SocketAddress → Bytes → Prop
  | inet (s : Ipv4Socket) : Written (.inet s) (Family.inet.tag :: s.toBytes)
  | inet6 (s : Ipv6Socket) : Written (.inet6 s.bare) (Family.inet6.tag :: s.toBytes)
  | unix (body : Bytes) : Written (.unix (Bytes.beforeNul body)) (Family.unix.tag :: body)

/-- An address of the Internet is written as the family and the bytes of its socket. -/
theorem written_internet (v : IpVersion) (host : v.Host) :
    Written (v.socketAddress (v.bare host)) (v.family.tag :: v.toBytes host) := by
  cases v with
  | four => exact .inet host
  | six => exact .inet6 host

/-- What a socket of the Internet writes is read as its address. -/
theorem decode_internet (v : IpVersion) (host : v.Host) :
    decode (v.family.tag :: v.toBytes host) = .ok (some (v.socketAddress (v.bare host))) := by
  rw [v.decode_socketAddress, if_pos (v.length_toBytes host), v.ofBytes_toBytes]

theorem decode_of_written {address : SocketAddress} {bytes : Bytes} (h : Written address bytes) :
    decode bytes = .ok (some address) := by
  cases h with
  | inet s => exact decode_internet .four s
  | inet6 s => exact decode_internet .six s
  | unix body => rfl

/-- An Internet address that is read is that of the whole body, whose length was checked. -/
theorem written_of_decode_internet {v : IpVersion} {address : SocketAddress} {body : Bytes}
    (h : decode (v.family.tag :: body) = .ok (some address)) :
    Written address (v.family.tag :: body) := by
  rw [v.decode_socketAddress] at h
  split at h
  · rename_i hlength
    cases h
    have hwritten := written_internet v (v.ofBytes body)
    rwa [v.toBytes_ofBytes hlength, v.bare_ofBytes] at hwritten
  · cases h

/-- The unspecified family names no address, and its payload is no more than the family. -/
theorem decode_unspec (body : Bytes) :
    decode (Family.unspec.tag :: body) =
      if body.length = 0 then .ok none else .error (.invalidSize .unspec (body.length + 1)) :=
  rfl

/-- Bytes are read only if their first one stands for a family. -/
theorem exists_family_of_decode {tag : UInt8} {body : Bytes} {result : Option SocketAddress}
    (h : decode (tag :: body) = .ok result) : ∃ family : Family, family.tag = tag := by
  cases htag : Family.ofTag? tag with
  | none =>
    rw [decode, Family.ofPayload, htag] at h
    cases h
  | some family => exact ⟨family, Family.tag_of_ofTag? htag⟩

theorem written_of_decode {address : SocketAddress} {bytes : Bytes}
    (h : decode bytes = .ok (some address)) : Written address bytes := by
  cases bytes with
  | nil => cases h
  | cons tag body =>
    obtain ⟨family, rfl⟩ := exists_family_of_decode h
    cases family with
    | inet => exact written_of_decode_internet (v := .four) h
    | inet6 => exact written_of_decode_internet (v := .six) h
    | unix =>
      cases h
      exact .unix body
    | unspec =>
      rw [decode_unspec] at h
      split at h <;> cases h

/-- Decoding reads an address exactly from its written forms. -/
theorem decode_eq_ok_some_iff {address : SocketAddress} {bytes : Bytes} :
    decode bytes = .ok (some address) ↔ Written address bytes :=
  ⟨written_of_decode, decode_of_written⟩

end SocketAddress

/-! ## Packing an address -/

/-- The name that is written of a path has no NUL, whatever bytes the path has. -/
theorem UnixPath.not_mem_wireName (path : UnixPath) : 0 ∉ path.wireName := by
  cases path with
  | pathname path => exact Bytes.not_mem_beforeNul _
  | abstract name => exact Bytes.not_mem_beforeNul _
  | unavailable => exact List.not_mem_nil

theorem UnixPath.length_toBytes (path : UnixPath) :
    path.toBytes.length = path.wireName.length + 1 :=
  List.length_append

/-- A path that fits and has no NUL is kept as it is. -/
theorem UnixPath.wireName_pathname {path : Bytes} (hnul : 0 ∉ path)
    (hlength : path.length < maxSize) : (pathname path).wireName = path := by
  rw [wireName, List.take_of_length_le (Nat.le_sub_one_of_lt hlength),
    Bytes.beforeNul_of_not_mem hnul]

namespace Endpoint

/-- The address that a record keeps of an end. -/
def address : Endpoint → SocketAddress
  | inet s => .inet s
  | inet6 s => .inet6 s.bare
  | unix s => .unix s.path.wireName

/-- The bytes that an end packs. -/
def toBytes : Endpoint → Bytes
  | inet s => Family.inet.tag :: s.toBytes
  | inet6 s => Family.inet6.tag :: s.toBytes
  | unix s => Family.unix.tag :: s.path.toBytes

/-- A socket of the Internet packs its family and its bytes. -/
theorem pack_internet (v : IpVersion) (host : v.Host) (out : Bytes) :
    (v.endpoint host).pack out =
      ((v.family.tag :: v.toBytes host).length, out ++ v.family.tag :: v.toBytes host) := by
  rw [List.length_cons, v.length_toBytes, List.append_cons]
  cases v <;> rfl

/-- An end packs the bytes of its address behind what the buffer holds. -/
theorem pack_eq (endpoint : Endpoint) (out : Bytes) :
    endpoint.pack out = (endpoint.toBytes.length, out ++ endpoint.toBytes) := by
  cases endpoint with
  | inet s => exact pack_internet .four s out
  | inet6 s => exact pack_internet .six s out
  | unix s =>
    show (1 + (s.path.wireName.length + 1), out ++ [Family.unix.tag] ++ s.path.toBytes) = _
    rw [List.append_assoc, toBytes, List.length_cons, s.path.length_toBytes, Nat.add_comm 1]
    rfl

/-- What an end packs is a written form of its address. -/
theorem written_toBytes (endpoint : Endpoint) :
    SocketAddress.Written endpoint.address endpoint.toBytes := by
  cases endpoint with
  | inet s => exact .inet s
  | inet6 s => exact .inet6 s
  | unix s =>
    have hwritten := SocketAddress.Written.unix s.path.toBytes
    rwa [UnixPath.toBytes, Bytes.beforeNul_append_nul s.path.not_mem_wireName] at hwritten

/-- What an end packs is read as its address. -/
theorem decode_toBytes (endpoint : Endpoint) :
    SocketAddress.decode endpoint.toBytes = .ok (some endpoint.address) :=
  SocketAddress.decode_of_written endpoint.written_toBytes

/-- **Reading undoes packing, and packing undoes reading.** An end appends as many bytes as it says
to whatever the buffer holds, and they decode to its address: the IPv4 address and port, the IPv6
address and port without flow and scope, or the name of the UNIX path. The other way round, bytes
that decode to an address of the Internet are what that address packs, and a path that was decoded
and fits into the array of the kernel is decoded again from what it packs. -/
theorem pack_decode :
    (∀ (endpoint : Endpoint) (out : Bytes), ∃ bytes,
      endpoint.pack out = (bytes.length, out ++ bytes) ∧
        SocketAddress.decode bytes = .ok (some endpoint.address)) ∧
    (∀ (bytes out : Bytes) (socket : Ipv4Socket),
      SocketAddress.decode bytes = .ok (some (.inet socket)) →
        (inet socket).pack out = (bytes.length, out ++ bytes)) ∧
    (∀ (bytes out : Bytes) (socket : Ipv6Socket),
      SocketAddress.decode bytes = .ok (some (.inet6 socket)) →
        (inet6 socket).pack out = (bytes.length, out ++ bytes)) ∧
    ∀ (bytes out path : Bytes) (id : UInt64),
      SocketAddress.decode bytes = .ok (some (.unix path)) → path.length < UnixPath.maxSize →
        ∃ again, (unix ⟨id, .pathname path⟩).pack out = (again.length, out ++ again) ∧
          SocketAddress.decode again = .ok (some (.unix path)) := by
  refine ⟨fun endpoint out => ?_, fun bytes out socket h => ?_, fun bytes out socket h => ?_,
    fun bytes out path id h hlength => ?_⟩
  · exact ⟨endpoint.toBytes, endpoint.pack_eq out, endpoint.decode_toBytes⟩
  · cases SocketAddress.decode_eq_ok_some_iff.mp h with
    | inet => exact pack_eq (inet socket) out
  · cases SocketAddress.decode_eq_ok_some_iff.mp h with
    | inet6 written => rw [pack_eq, toBytes, Ipv6Socket.toBytes_bare]
  · cases SocketAddress.decode_eq_ok_some_iff.mp h with
    | unix body =>
      have hname := UnixPath.wireName_pathname (Bytes.not_mem_beforeNul body) hlength
      refine ⟨_, pack_eq _ out, ?_⟩
      rw [decode_toBytes, address, hname]

/-- An IPv4 and an IPv6 address are packed again, and so is a path with bytes behind its NUL. -/
theorem pack_decoded_addresses :
    let loopback : Ipv4Socket := ⟨.ofBytes [127, 0, 0, 1], 80⟩
    let router : Ipv6Socket := { address := .ofBytes [0xFE, 0x80], port := 8080 }
    let routerBytes : Bytes := 10 :: 0xFE :: 0x80 :: (List.replicate 14 0 ++ [0x90, 0x1F])
    let path : Bytes := [47, 97]
    SocketAddress.decode [2, 127, 0, 0, 1, 80, 0] = .ok (some (.inet loopback)) ∧
      (inet loopback).pack [7] = (7, [7] ++ [2, 127, 0, 0, 1, 80, 0]) ∧
    SocketAddress.decode routerBytes = .ok (some (.inet6 router)) ∧
      (inet6 router).pack [] = (19, routerBytes) ∧
    SocketAddress.decode [1, 47, 97, 0, 98] = .ok (some (.unix path)) ∧
      path.length < UnixPath.maxSize ∧
      ∃ again, (unix ⟨3, .pathname path⟩).pack [] = (again.length, [] ++ again) ∧
        SocketAddress.decode again = .ok (some (.unix path)) := by
  intro loopback router routerBytes path
  obtain ⟨-, hinet, hinet6, hunix⟩ := pack_decode
  have hloopback : SocketAddress.decode [2, 127, 0, 0, 1, 80, 0] = .ok (some (.inet loopback)) :=
    rfl
  have hrouter : SocketAddress.decode routerBytes = .ok (some (.inet6 router)) := rfl
  have hpath : SocketAddress.decode [1, 47, 97, 0, 98] = .ok (some (.unix path)) := rfl
  have hlength : path.length < UnixPath.maxSize := by
    decide
  exact ⟨hloopback, hinet _ [7] loopback hloopback, hrouter, hinet6 _ [] router hrouter,
    hpath, hlength, hunix _ [] path 3 hpath hlength⟩

end Endpoint

end SyscallTrace
