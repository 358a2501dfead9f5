import SyscallTrace.Proofs.Record.Layout

/-!
# Integer parameters

The two accessors of integers never fail on a parameter of a decoded record: it is absent, or it has
exactly the size of its type. What they give is the little-endian number, extended with zeros or
with its sign (specification §15.3).

- `Param.unsigned?_encode`, `Param.signed?_encode`: the number that was written is read.
- `Param.exists_signed?`: a parameter that fits an integer type can be read, and
  `Param.exists_signed?_eq_some`: it is a number if it is present.
-/

namespace SyscallTrace

/-- The sizes of integers. -/
theorem ParamType.size_of_fixedSize? {type : ParamType} {size : UInt32}
    (h : type.fixedSize? = some size) :
    size.toNat = 1 ∨ size.toNat = 2 ∨ size.toNat = 4 ∨ size.toNat = 8 := by
  cases type <;> cases h <;> decide

namespace Param

variable {type : ParamType}

/-- A parameter without bytes is absent. -/
theorem unsigned?_nil (h : type.isVariable = false) :
    unsigned? { type, data := [] } = .ok none := by
  rw [unsigned?, expect]
  dsimp only
  rw [h]
  rfl

theorem unsigned?_of_length (h : type.isVariable = false) {data : Bytes}
    (hsize : data.length = 1 ∨ data.length = 2 ∨ data.length = 4 ∨ data.length = 8) :
    unsigned? { type, data } = .ok (some (Bytes.toUInt64 data)) := by
  rw [unsigned?, expect]
  dsimp only
  rw [h]
  rcases hsize with hsize | hsize | hsize | hsize <;> rw [hsize] <;> rfl

/-- An unsigned number that was written is read. -/
theorem unsigned?_encode (h : type.isVariable = false) {w n : Nat}
    (hw : w = 1 ∨ w = 2 ∨ w = 4 ∨ w = 8) (hn : n < LittleEndian.count w) :
    unsigned? { type, data := LittleEndian.encode w n } = .ok (some (UInt64.ofNat n)) := by
  rw [unsigned?_of_length h (by rw [LittleEndian.length_encode]; exact hw), Bytes.toUInt64,
    LittleEndian.decode_encode_of_lt hn]

/-- A signed number that was written in two's complement is read. -/
theorem signed?_encode (h : type.isVariable = false) {w n : Nat}
    (hw : w = 1 ∨ w = 2 ∨ w = 4 ∨ w = 8) (hn : n < LittleEndian.count w) :
    signed? { type, data := LittleEndian.encode w n } =
      .ok (some (Int64.ofInt (Int.bmod n (LittleEndian.count w)))) := by
  have hmax : LittleEndian.count w ≤ UInt64.size := by
    rcases hw with rfl | rfl | rfl | rfl <;> decide
  have hword : (UInt64.ofNat n).toNat = n :=
    UInt64.toNat_ofNat_of_lt' (Nat.lt_of_lt_of_le hn hmax)
  rw [signed?, unsigned?_encode h hw hn]
  show Except.ok (some (extendSign (LittleEndian.encode w n).length (UInt64.ofNat n))) = _
  rw [LittleEndian.length_encode, extendSign, hword]

/-- A parameter that is present and fits an integer type is a signed number. -/
theorem exists_signed?_eq_some {data : Bytes} {width : PrefixWidth} (h : type.isVariable = false)
    (hfits : type.Fits width data.length) (hdata : data ≠ []) :
    ∃ n, signed? { type, data } = .ok (some n) := by
  obtain ⟨size, hsize⟩ : ∃ size, type.fixedSize? = some size := by
    rwa [ParamType.isVariable, Option.isNone_eq_false_iff, Option.isSome_iff_exists] at h
  have hbounds : type.bounds width = (size, size) := by rw [ParamType.bounds, hsize]
  rw [ParamType.Fits, hbounds] at hfits
  obtain ⟨hmin, hmax⟩ := hfits.resolve_left fun hzero => hdata (List.length_eq_zero_iff.mp hzero)
  have hlength : data.length = size.toNat := Nat.le_antisymm hmax hmin
  have hread : unsigned? { type, data } = _ :=
    unsigned?_of_length h (hlength ▸ ParamType.size_of_fixedSize? hsize)
  rw [signed?, hread]
  exact ⟨_, rfl⟩

/-- A parameter that fits an integer type can be read as a signed number. -/
theorem exists_signed? {data : Bytes} {width : PrefixWidth} (h : type.isVariable = false)
    (hfits : type.Fits width data.length) : ∃ value, signed? { type, data } = .ok value := by
  by_cases hdata : data = []
  · rw [hdata, signed?, unsigned?_nil h]
    exact ⟨none, rfl⟩
  · obtain ⟨n, hn⟩ := exists_signed?_eq_some h hfits hdata
    exact ⟨some n, hn⟩

end Param

end SyscallTrace
