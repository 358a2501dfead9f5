import SyscallTrace.Capture.Memory

/-!
# What memory shows

Memory is known by what it answers. The plainest kind has a byte at some addresses and none at the
others, and answers a read exactly if every byte of it is there. If pages are there as a whole, a
string is read as if its bytes were read one after the other, up to the NUL that ends it: reading by
pages never asks for a page that the string does not reach (specification §4.3).

- `Contents`, `Contents.read`: bytes at addresses, and some that follow each other.
- `Memory.Shows`: memory that answers with the bytes that are there.
- `Memory.readPages_eq`: **pages are read as single bytes would be**.
- `Memory.readString_of_terminated`: what is read of a string that ends with a NUL.
- `Memory.shows_ofRegions`: a region is memory of this kind.
-/

namespace SyscallTrace

/-! ## Answers -/

/-- What an answer gives, if it is not a failure. -/
theorem toOption_eq_some_iff {α ε : Type} {x : Except ε α} {a : α} :
    x.toOption = some a ↔ x = .ok a := by
  cases x with
  | ok b => exact ⟨fun h => congrArg Except.ok (Option.some.inj h), congrArg Except.toOption⟩
  | error e =>
    constructor
    · intro h
      cases h
    · intro h
      cases h

theorem toOption_eq_none_iff {α ε : Type} {x : Except ε α} :
    x.toOption = none ↔ ∃ e, x = .error e := by
  cases x with
  | ok b =>
    constructor
    · intro h
      cases h
    · rintro ⟨e, h⟩
      cases h
  | error e => exact ⟨fun _ => ⟨e, rfl⟩, fun _ => rfl⟩

/-! ## Contents -/

/-- The bytes of an address space. There is none behind the last address. -/
structure Contents where
  byte? : Nat → Option UInt8
  bounded : ∀ address, UInt64.size ≤ address → byte? address = none

namespace Contents

/-- The bytes from an address on, if all of them are there. -/
def read (c : Contents) : (address length : Nat) → Option Bytes
  | _, 0 => some []
  | address, length + 1 =>
    (c.byte? address).bind fun b => (c.read (address + 1) length).map (b :: ·)

/-- The string at an address, byte by byte: no more than `left` bytes of it, and a NUL. -/
def string (c : Contents) : (address left : Nat) → Option Bytes
  | _, 0 => some [0]
  | address, left + 1 =>
    (c.byte? address).bind fun b =>
      if b = 0 then some [0] else (c.string (address + 1) left).map (b :: ·)

/-- Whether each page is there as a whole or not at all. -/
def WholePages (c : Contents) : Prop :=
  ∀ a b, a / Memory.pageSize = b / Memory.pageSize → (c.byte? a).isSome = (c.byte? b).isSome

variable {c : Contents}

theorem read_cons {address : Nat} {b : UInt8} {bs : Bytes} :
    c.read address (b :: bs).length = some (b :: bs) ↔
      c.byte? address = some b ∧ c.read (address + 1) bs.length = some bs := by
  rw [List.length_cons, read]
  cases c.byte? address with
  | none => simp
  | some b' =>
    cases c.read (address + 1) bs.length with
    | none => simp
    | some bs' => simp

/-- A read fails only at an address without a byte. -/
theorem exists_missing_of_read {address length : Nat} (h : c.read address length = none) :
    ∃ i < length, c.byte? (address + i) = none := by
  induction length generalizing address with
  | zero => cases h
  | succ length ih =>
    rw [read] at h
    cases hbyte : c.byte? address with
    | none => exact ⟨0, Nat.succ_pos _, hbyte⟩
    | some b =>
      rw [hbyte, Option.bind_some, Option.map_eq_none_iff] at h
      obtain ⟨i, hi, hmissing⟩ := ih h
      refine ⟨i + 1, Nat.succ_lt_succ hi, ?_⟩
      rwa [Nat.add_right_comm] at hmissing

theorem read_of_missing {address length : Nat} (hmissing : c.byte? address = none)
    (hlength : 0 < length) : c.read address length = none := by
  obtain ⟨length, rfl⟩ := Nat.exists_eq_add_one.mpr hlength
  rw [read, hmissing, Option.bind_none]

/-- On whole pages, a read that stays inside of a page fails at its first byte. -/
theorem missing_of_read (hpages : c.WholePages) {address length : Nat}
    (hlength : length ≤ Memory.pageSize - address % Memory.pageSize)
    (h : c.read address length = none) : c.byte? address = none := by
  obtain ⟨i, hi, hmissing⟩ := exists_missing_of_read h
  have hsame : (address + i) / Memory.pageSize = address / Memory.pageSize := by
    unfold Memory.pageSize at hlength ⊢
    omega
  have hnone := hpages _ _ hsame
  rw [hmissing] at hnone
  exact Option.not_isSome_iff_eq_none.mp (Bool.eq_false_iff.mp hnone.symm)

/-- A string is not there if its first byte is not. -/
theorem string_of_missing {address left : Nat} (hmissing : c.byte? address = none)
    (hleft : left ≠ 0) : c.string address left = none := by
  cases left with
  | zero => exact absurd rfl hleft
  | succ left => rw [string, hmissing, Option.bind_none]

/-- A string ends in bytes with a NUL, and goes on behind others. -/
theorem string_of_read {bs : Bytes} :
    ∀ {address left : Nat}, c.read address bs.length = some bs → bs.length ≤ left →
      c.string address left =
        if bs.contains 0 then some (Bytes.beforeNul bs ++ [0])
        else (c.string (address + bs.length) (left - bs.length)).map (bs ++ ·) := by
  induction bs with
  | nil =>
    intro address left _ _
    exact Option.map_id'.symm
  | cons b bs ih =>
    intro address left hread hleft
    obtain ⟨left, rfl⟩ : ∃ n, left = n + 1 :=
      Nat.exists_eq_add_one.mpr (Nat.lt_of_lt_of_le (Nat.succ_pos _) hleft)
    obtain ⟨hbyte, hrest⟩ := read_cons.mp hread
    rw [string, hbyte, Option.bind_some]
    by_cases hzero : b = 0
    · rw [if_pos hzero, hzero]
      rfl
    · have hcontains : (b :: bs).contains 0 = bs.contains 0 := by
        rw [List.contains_cons, beq_eq_false_iff_ne.mpr (Ne.symm hzero), Bool.false_or]
      rw [if_neg hzero, ih hrest (Nat.le_of_succ_le_succ hleft), hcontains,
        Bytes.beforeNul_cons hzero, List.length_cons, Nat.add_sub_add_right, Nat.add_right_comm,
        Nat.add_assoc]
      -- whether there is a NUL is decided behind the first byte
      by_cases hnul : bs.contains 0
      · rw [if_pos hnul, if_pos hnul]
        rfl
      · rw [if_neg hnul, if_neg hnul, Option.map_map]
        rfl

/-- Bytes without a NUL, and one behind them, are a string of as many of them as may be read. -/
theorem string_of_terminated {bs : Bytes} (hnul : 0 ∉ bs) :
    ∀ {address left : Nat}, c.read address (bs ++ [0]).length = some (bs ++ [0]) →
      c.string address left = some (bs.take left ++ [0]) := by
  induction bs with
  | nil =>
    intro address left hread
    obtain ⟨hbyte, -⟩ := read_cons.mp hread
    cases left with
    | zero => rfl
    | succ left => rw [string, hbyte, Option.bind_some, if_pos rfl]; rfl
  | cons b bs ih =>
    intro address left hread
    obtain ⟨hbyte, hrest⟩ := read_cons.mp hread
    have hzero : b ≠ 0 := fun h => hnul (h ▸ List.mem_cons_self)
    cases left with
    | zero => rfl
    | succ left =>
      rw [string, hbyte, Option.bind_some, if_neg hzero,
        ih (fun h => hnul (List.mem_cons_of_mem b h)) hrest]
      rfl

end Contents

/-! ## Reading -/

namespace Memory

variable {memory : Memory} {space : AddressSpace} {c : Contents}

/-- Whether memory has given contents: every read of some bytes gives those that are there, and
fails if one of them is missing. -/
def Shows (memory : Memory) (space : AddressSpace) (c : Contents) : Prop :=
  ∀ (address : UInt64) (length : Nat), 0 < length →
    (memory.read space address length).toOption.map Subtype.val = c.read address.toNat length

/-- **Pages are read as single bytes would be.** -/
theorem readPages_eq (hshows : memory.Shows space c) (hpages : c.WholePages) (address left : Nat) :
    (memory.readPages space address left).toOption = c.string address left := by
  induction left using Nat.strongRecOn generalizing address with
  | _ left ih =>
    rw [readPages]
    by_cases hleft : left = 0
    · rw [if_pos hleft, hleft]
      rfl
    · rw [if_neg hleft]
      by_cases hend : address ≥ UInt64.size
      · rw [if_pos hend, Contents.string_of_missing (c.bounded address hend) hleft]
        rfl
      · rw [if_neg hend]
        -- what is asked of this page is at least one byte, and does not cross its end
        have hlength : 0 < min (pageSize - address % pageSize) left := by
          have : address % pageSize < pageSize := Nat.mod_lt _ (by decide)
          omega
        have hread := hshows (UInt64.ofNat address) _ hlength
        rw [UInt64.toNat_ofNat_of_lt' (Nat.lt_of_not_le hend)] at hread
        dsimp only
        generalize hmin : min (pageSize - address % pageSize) left = length at hlength hread ⊢
        cases hanswer : memory.read space (UInt64.ofNat address) length with
        | error e =>
          rw [hanswer] at hread
          -- the page cannot be read, so it has no byte at this address
          have hfirst := Contents.missing_of_read hpages (by omega) hread.symm
          rw [Contents.string_of_missing hfirst hleft]
          rfl
        | ok answer =>
          obtain ⟨bs, rfl⟩ := answer
          rw [hanswer] at hread
          rw [Contents.string_of_read hread.symm (by omega)]
          dsimp only
          -- the string ends on this page, or goes on behind it with less room left
          by_cases hnul : bs.contains 0
          · rw [if_pos hnul, if_pos hnul]
            rfl
          · rw [if_neg hnul, if_neg hnul, ← ih _ (by omega)]
            cases memory.readPages space (address + bs.length) (left - bs.length) with
            | error e => rfl
            | ok rest => rfl

/-- A string that ends with a NUL is read up to it, or as far as there is room. -/
theorem readString_of_terminated (hshows : memory.Shows space c) (hpages : c.WholePages)
    {bs : Bytes} (hnul : 0 ∉ bs) {address : UInt64}
    (hread : c.read address.toNat (bs ++ [0]).length = some (bs ++ [0])) {size : Nat}
    (hsize : 0 < size) :
    memory.readString space address size = .ok (bs.take (size - 1) ++ [0]) := by
  have hstring := readPages_eq hshows hpages address.toNat (size - 1)
  rw [Contents.string_of_terminated hnul hread] at hstring
  rw [readString, if_neg (Nat.ne_of_gt hsize)]
  exact toOption_eq_some_iff.mp hstring

end Memory

/-! ## Regions -/

namespace Region

/-- The bytes of a region, as far as there are addresses for them. -/
def contents (r : Region) : Contents where
  byte? address :=
    if r.base.toNat ≤ address ∧ address < UInt64.size then r.bytes[address - r.base.toNat]?
    else none
  bounded _ h := if_neg fun hinside => Nat.not_lt.mpr h hinside.2

variable {r : Region}

theorem byte?_contents (hend : r.base.toNat + r.bytes.length ≤ UInt64.size) (offset : Nat) :
    r.contents.byte? (r.base.toNat + offset) = r.bytes[offset]? := by
  show (if _ then _ else _) = _
  rw [Nat.add_sub_cancel_left]
  by_cases hoffset : offset < r.bytes.length
  · rw [if_pos ⟨Nat.le_add_right _ _, by omega⟩]
  · rw [List.getElem?_eq_none (Nat.le_of_not_lt hoffset), ite_self]

/-- The bytes from an address of a region on are there up to the end of the region. -/
theorem read_contents (hend : r.base.toNat + r.bytes.length ≤ UInt64.size) {offset : Nat}
    (hoffset : offset ≤ r.bytes.length) (length : Nat) :
    r.contents.read (r.base.toNat + offset) length =
      if offset + length ≤ r.bytes.length then some ((r.bytes.drop offset).take length)
      else none := by
  induction length generalizing offset with
  | zero => exact (if_pos hoffset).symm
  | succ length ih =>
    rw [Contents.read, byte?_contents hend]
    by_cases hinside : offset < r.bytes.length
    · rw [List.getElem?_eq_getElem hinside, Option.bind_some, Nat.add_assoc, ih hinside,
        List.drop_eq_getElem_cons hinside, List.take_succ_cons, Nat.succ_add, ← Nat.add_succ]
      split
      · rfl
      · rfl
    · rw [List.getElem?_eq_none (Nat.le_of_not_lt hinside), if_neg (by omega)]
      rfl

/-- The bytes of a region are there, and so are its first ones. -/
theorem read_base (hend : r.base.toNat + r.bytes.length ≤ UInt64.size) (length : Nat) :
    r.contents.read r.base.toNat length =
      if length ≤ r.bytes.length then some (r.bytes.take length) else none := by
  have hread := read_contents hend (Nat.zero_le _) length
  rwa [Nat.zero_add, Nat.add_zero, List.drop_zero] at hread

/-- A region of whole pages. -/
theorem wholePages_contents (hend : r.base.toNat + r.bytes.length ≤ UInt64.size)
    (hbase : Memory.pageSize ∣ r.base.toNat) (hlength : Memory.pageSize ∣ r.bytes.length) :
    r.contents.WholePages := by
  have hsome : ∀ address, (r.contents.byte? address).isSome =
      decide (r.base.toNat ≤ address ∧ address < r.base.toNat + r.bytes.length) := by
    intro address
    by_cases hbelow : address < r.base.toNat
    · rw [decide_eq_false (by omega)]
      exact congrArg Option.isSome (if_neg (by omega))
    · obtain ⟨offset, rfl⟩ := Nat.exists_eq_add_of_le (Nat.le_of_not_lt hbelow)
      rw [byte?_contents hend, Bool.eq_iff_iff, isSome_getElem?, decide_eq_true_iff]
      show offset < r.bytes.length ↔ _
      omega
  intro a b hsame
  rw [hsome, hsome, decide_eq_decide]
  obtain ⟨first, hfirst⟩ := hbase
  obtain ⟨count, hcount⟩ := hlength
  unfold Memory.pageSize at *
  omega

end Region

/-- **A region is memory that has the bytes of the region.** -/
theorem Memory.shows_ofRegions {r : Region}
    (hend : r.base.toNat + r.bytes.length ≤ UInt64.size) :
    (Memory.ofRegions [r]).Shows r.space r.contents := by
  intro address length hlength
  rw [ofRegions]
  dsimp only
  split
  · rename_i answer hfound
    -- all bytes are inside of the region
    obtain rfl : answer = r := List.mem_singleton.mp (List.mem_of_find?_eq_some hfound)
    have hholds := List.find?_some hfound
    simp only [Region.holds, Bool.and_eq_true, decide_eq_true_eq] at hholds
    obtain ⟨offset, hoffset⟩ := Nat.exists_eq_add_of_le hholds.1.2
    show some ((answer.bytes.drop (address.toNat - answer.base.toNat)).take length) = _
    rw [hoffset, Region.read_contents hend (by omega), if_pos (by omega), Nat.add_sub_cancel_left]
  · rename_i hmissing
    have hholds := List.find?_eq_none.mp hmissing r List.mem_cons_self
    simp only [Region.holds, Bool.and_eq_true, decide_eq_true_eq, true_and] at hholds
    show Option.none = _
    by_cases hbelow : address.toNat < r.base.toNat
    · have hfirst : r.contents.byte? address.toNat = Option.none := if_neg (by omega)
      rw [Contents.read_of_missing hfirst hlength]
    · obtain ⟨offset, hoffset⟩ := Nat.exists_eq_add_of_le (Nat.le_of_not_lt hbelow)
      by_cases hinside : offset ≤ r.bytes.length
      · rw [hoffset, Region.read_contents hend hinside, if_neg (by omega)]
      · have hfirst : r.contents.byte? address.toNat = Option.none := by
          rw [hoffset, Region.byte?_contents hend]
          exact List.getElem?_eq_none (by omega)
        rw [Contents.read_of_missing hfirst hlength]

end SyscallTrace
