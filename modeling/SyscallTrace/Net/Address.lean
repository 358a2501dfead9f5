import SyscallTrace.Bytes.LittleEndian
import SyscallTrace.Text.Numeral

/-!
# Internet addresses

Addresses of the two Internet families, each with a port, and the texts they are written as
(specification §4.5).

An IPv6 address is written in its canonical form: eight groups of lower-case hexadecimal digits
without leading zeros, the first longest run of two or more zero groups cut to `::`. An address
that embeds an IPv4 address behind `::ffff:` shows the latter with dots.
-/

namespace SyscallTrace

/-- Exactly `n` bytes, in network order. -/
structure Octets (n : Nat) where
  bytes : Bytes
  length_bytes : bytes.length = n
  deriving DecidableEq, Repr

namespace Octets

variable {n : Nat}

/-- The first `n` bytes, with zeros for those that are missing. -/
def ofBytes (bs : Bytes) : Octets n :=
  ⟨(bs ++ List.replicate n 0).take n, by simp⟩

@[ext] theorem ext {a b : Octets n} (h : a.bytes = b.bytes) : a = b := by
  cases a
  cases b
  simpa using h

theorem ofBytes_append_bytes (a : Octets n) (bs : Bytes) : ofBytes (a.bytes ++ bs) = a := by
  apply ext
  have h := a.length_bytes
  have h1 : ((a.bytes ++ bs ++ List.replicate n 0).take a.bytes.length) = a.bytes := by
    simp [List.append_assoc]
  rw [h] at h1
  exact h1

end Octets

/-- An IPv4 address and a port. -/
structure Ipv4Socket where
  address : Octets 4
  port : UInt16
  deriving DecidableEq, Repr

/-- An IPv6 address and a port, with the flow and the scope that a local socket may have. -/
structure Ipv6Socket where
  address : Octets 16
  port : UInt16
  flow : UInt32 := 0
  scope : UInt32 := 0
  deriving DecidableEq, Repr

/-- Decimal numbers with dots between them. -/
def dottedText (bs : Bytes) : String := ".".intercalate (bs.map fun b => toString b.toNat)

/-- Address, colon, port. -/
def Ipv4Socket.text (s : Ipv4Socket) : String := dottedText s.address.bytes ++ s!":{s.port.toNat}"

namespace Ipv6Text

/-- The groups of an address, two bytes each, the higher byte first. -/
def groups : Bytes → List Nat
  | high :: low :: bs => (high.toNat * 256 + low.toNat) :: groups bs
  | _ => []

/-- The number of zero groups from position `i` on. -/
def zerosAt (gs : List Nat) (i : Nat) : Nat := ((gs.drop i).takeWhile (· == 0)).length

/-- Start and length of the first longest run of zero groups. -/
def longestZeros (gs : List Nat) : Nat × Nat :=
  (List.range gs.length).foldl
    (fun best i => if zerosAt gs i > best.2 then (i, zerosAt gs i) else best) (0, 0)

/-- Hexadecimal groups with colons between them. -/
def colonText (gs : List Nat) : String := ":".intercalate (gs.map hexDigits)

/-- The canonical text of an address. -/
def render (bs : Bytes) : String :=
  if bs.take 12 = [0, 0, 0, 0, 0, 0, 0, 0, 0, 0, 0xFF, 0xFF] then
    "::ffff:" ++ dottedText (bs.drop 12)
  else
    let gs := groups bs
    let (start, length) := longestZeros gs
    if length < 2 then colonText gs
    else colonText (gs.take start) ++ "::" ++ colonText (gs.drop (start + length))

end Ipv6Text

/-- Address in brackets, colon, port. A scope other than zero follows the address. -/
def Ipv6Socket.text (s : Ipv6Socket) : String :=
  let scope := if s.scope = 0 then "" else s!"%{s.scope.toNat}"
  "[" ++ Ipv6Text.render s.address.bytes ++ scope ++ s!"]:{s.port.toNat}"

end SyscallTrace
