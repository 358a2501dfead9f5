import SyscallTrace.Bytes.Terminated
import SyscallTrace.Text.Numeral

/-!
# Memory

The arguments of a system call may point into memory that the producer has to read. A `Memory`
answers a read with all bytes that were asked for, or with the reason why not (specification
§4.3, §7).

- `Memory.none`, `Memory.unmapped`, `Memory.ofRegions`: memory that holds nothing, an address
  space without pages, and one that holds some regions.
- `Memory.readString`: a terminated string, read page by page, so that a page that is not there
  does no harm unless the string reaches into it.
-/

namespace SyscallTrace

/-- Whose addresses are meant. -/
inductive AddressSpace where
  | user
  | kernel
  deriving DecidableEq, Repr

/-- The name of an address space. -/
def AddressSpace.name : AddressSpace → String
  | .user => "User"
  | .kernel => "Kernel"

/-- Why memory cannot be read. -/
inductive ReadError where
  /-- There is nothing at the address, which is zero or lies behind the last one. -/
  | null
  /-- The memory knows nothing of the address space. -/
  | unsupported (space : AddressSpace)
  /-- The system refused the read. -/
  | fault (address : UInt64) (length : Nat)
  /-- Fewer bytes were there than asked for. -/
  | short (address : UInt64) (length read : Nat)
  deriving DecidableEq, Repr

/-- Says what was to be read. -/
def ReadError.message : ReadError → String
  | .null => "null pointer"
  | .unsupported space => s!"{space.name} memory is not readable from this source"
  | .fault address length => s!"reading {length} bytes at {hexText address.toNat}"
  | .short address length read =>
    s!"short read at {hexText address.toNat}: {read} of {length} bytes"

/-- Memory that can be read. An answer has exactly the length that was asked for. -/
structure Memory where
  read : AddressSpace → UInt64 → (length : Nat) →
    Except ReadError { bs : Bytes // bs.length = length }

/-- Consecutive bytes of an address space. -/
structure Region where
  space : AddressSpace
  base : UInt64
  bytes : Bytes
  deriving DecidableEq, Repr

namespace Region

/-- Whether `length` bytes from an address on lie inside of a region. -/
def holds (r : Region) (space : AddressSpace) (address : UInt64) (length : Nat) : Bool :=
  r.space = space && r.base.toNat ≤ address.toNat &&
    address.toNat - r.base.toNat + length ≤ r.bytes.length

end Region

namespace Memory

/-- The size of a page. -/
def pageSize : Nat := 4096

/-- Memory that knows no address space. -/
def none : Memory where
  read space _ _ := .error (.unsupported space)

/-- The user memory of a process in which no page is there. -/
def unmapped : Memory where
  read space address length :=
    if space ≠ .user then .error (.unsupported space)
    else if address = 0 then .error .null
    else if h : length = 0 then .ok ⟨[], h ▸ rfl⟩
    else .error (.fault address length)

/-- Memory made of regions. The first one that holds all the bytes answers. -/
def ofRegions (regions : List Region) : Memory where
  read space address length :=
    match h : regions.find? (·.holds space address length) with
    | some r =>
      .ok ⟨(r.bytes.drop (address.toNat - r.base.toNat)).take length, by
        have hold := List.find?_some h
        simp only [Region.holds, Bool.and_eq_true, decide_eq_true_eq] at hold
        simp only [List.length_take, List.length_drop]
        omega⟩
    | Option.none => .error (.short address length 0)

/-- Reads a string of at most `left` bytes from an address on, and puts a NUL behind it. No read
goes over the end of a page. -/
def readPages (memory : Memory) (space : AddressSpace) (address left : Nat) :
    Except ReadError Bytes :=
  if left = 0 then .ok [0]
  else if address ≥ UInt64.size then .error .null
  else
    let length := min (pageSize - address % pageSize) left
    match memory.read space (UInt64.ofNat address) length with
    | .error e => .error e
    | .ok ⟨bs, _⟩ =>
      if bs.contains 0 then .ok (Bytes.beforeNul bs ++ [0])
      else (memory.readPages space (address + length) (left - length)).map (bs ++ ·)
termination_by left
decreasing_by
  have hpage : address % pageSize < pageSize := Nat.mod_lt _ (by decide)
  omega

/-- Reads a terminated string into `size` bytes: its bytes with the NUL, or as many of them as
leave room for a NUL. -/
def readString (memory : Memory) (space : AddressSpace) (address : UInt64) (size : Nat) :
    Except ReadError Bytes :=
  if size = 0 then .ok [] else memory.readPages space address.toNat (size - 1)

end Memory

end SyscallTrace
