/-!
# Little-endian integers

Every integer of a record is stored least significant byte first. One encoder and one decoder serve
all widths: a natural number becomes exactly `w` bytes, and a byte string of any length becomes a
natural number (specification §12).

- `LittleEndian.encode w n`: the `w` low bytes of `n`.
- `LittleEndian.decode bs`: the number that `bs` holds.
- `LittleEndian.count w`: how many numbers `w` bytes tell apart, 256 to the power of `w`.
- `LittleEndian.decode_encode`: reading back gives `n` modulo `count w`, hence `n` itself when it
  fits (`decode_encode_of_lt`).
- `LittleEndian.encode_decode`: a byte string is the encoding of the number it holds.
-/

namespace SyscallTrace

/-- A byte string. -/
abbrev Bytes := List UInt8

namespace LittleEndian

/-- The `w` low bytes of `n`, least significant first. -/
def encode : Nat → Nat → Bytes
  | 0, _ => []
  | w + 1, n => UInt8.ofNat n :: encode w (n / 256)

/-- How many numbers `w` bytes tell apart. -/
def count : Nat → Nat
  | 0 => 1
  | w + 1 => 256 * count w

/-- The number whose bytes, least significant first, are given. -/
def decode : Bytes → Nat
  | [] => 0
  | b :: bs => b.toNat + 256 * decode bs

@[simp] theorem encode_zero (n : Nat) : encode 0 n = [] := rfl

@[simp] theorem decode_nil : decode [] = 0 := rfl

@[simp] theorem decode_cons (b : UInt8) (bs : Bytes) :
    decode (b :: bs) = b.toNat + 256 * decode bs := rfl

@[simp] theorem count_zero : count 0 = 1 := rfl

theorem count_succ (w : Nat) : count (w + 1) = 256 * count w := rfl

@[simp] theorem length_encode (w n : Nat) : (encode w n).length = w := by
  induction w generalizing n with
  | zero => rfl
  | succ w ih => simp [encode, ih]

theorem decode_encode (w n : Nat) : decode (encode w n) = n % count w := by
  induction w generalizing n with
  | zero => simp [Nat.mod_one]
  | succ w ih =>
    have hb : (UInt8.ofNat n).toNat = n % 256 := UInt8.toNat_ofNat'
    rw [encode, decode_cons, ih, hb, count_succ, Nat.mod_mul]

theorem decode_encode_of_lt {w n : Nat} (h : n < count w) : decode (encode w n) = n := by
  rw [decode_encode, Nat.mod_eq_of_lt h]

theorem decode_lt (bs : Bytes) : decode bs < count bs.length := by
  induction bs with
  | nil => simp
  | cons b bs ih =>
    have hb : b.toNat < 256 := b.toNat_lt
    rw [decode_cons, List.length_cons, count_succ]
    omega

theorem encode_decode (bs : Bytes) : encode bs.length (decode bs) = bs := by
  induction bs with
  | nil => rfl
  | cons b bs ih =>
    have hb : b.toNat < 256 := b.toNat_lt
    have hlow : UInt8.ofNat (b.toNat + 256 * decode bs) = b := by
      apply UInt8.toNat_inj.mp
      rw [UInt8.toNat_ofNat']
      omega
    have hhigh : (b.toNat + 256 * decode bs) / 256 = decode bs := by omega
    rw [List.length_cons, encode, decode_cons, hlow, hhigh, ih]

end LittleEndian

/-- The number held by a two-byte string. -/
def Bytes.toUInt16 (bs : Bytes) : UInt16 := UInt16.ofNat (LittleEndian.decode bs)

/-- The number held by a four-byte string. -/
def Bytes.toUInt32 (bs : Bytes) : UInt32 := UInt32.ofNat (LittleEndian.decode bs)

/-- The number held by an eight-byte string. -/
def Bytes.toUInt64 (bs : Bytes) : UInt64 := UInt64.ofNat (LittleEndian.decode bs)

/-- The bytes of a 16-bit number. -/
def Bytes.ofUInt16 (n : UInt16) : Bytes := LittleEndian.encode 2 n.toNat

/-- The bytes of a 32-bit number. -/
def Bytes.ofUInt32 (n : UInt32) : Bytes := LittleEndian.encode 4 n.toNat

/-- The bytes of a 64-bit number. -/
def Bytes.ofUInt64 (n : UInt64) : Bytes := LittleEndian.encode 8 n.toNat

@[simp] theorem Bytes.length_ofUInt16 (n : UInt16) : (Bytes.ofUInt16 n).length = 2 :=
  LittleEndian.length_encode 2 _

@[simp] theorem Bytes.length_ofUInt32 (n : UInt32) : (Bytes.ofUInt32 n).length = 4 :=
  LittleEndian.length_encode 4 _

@[simp] theorem Bytes.length_ofUInt64 (n : UInt64) : (Bytes.ofUInt64 n).length = 8 :=
  LittleEndian.length_encode 8 _

@[simp] theorem Bytes.toUInt16_ofUInt16 (n : UInt16) : Bytes.toUInt16 (Bytes.ofUInt16 n) = n := by
  have h : n.toNat < LittleEndian.count 2 := n.toNat_lt
  rw [Bytes.toUInt16, Bytes.ofUInt16, LittleEndian.decode_encode_of_lt h, UInt16.ofNat_toNat]

@[simp] theorem Bytes.toUInt32_ofUInt32 (n : UInt32) : Bytes.toUInt32 (Bytes.ofUInt32 n) = n := by
  have h : n.toNat < LittleEndian.count 4 := n.toNat_lt
  rw [Bytes.toUInt32, Bytes.ofUInt32, LittleEndian.decode_encode_of_lt h, UInt32.ofNat_toNat]

@[simp] theorem Bytes.toUInt64_ofUInt64 (n : UInt64) : Bytes.toUInt64 (Bytes.ofUInt64 n) = n := by
  have h : n.toNat < LittleEndian.count 8 := n.toNat_lt
  rw [Bytes.toUInt64, Bytes.ofUInt64, LittleEndian.decode_encode_of_lt h, UInt64.ofNat_toNat]

theorem Bytes.ofUInt16_toUInt16 {bs : Bytes} (h : bs.length = 2) :
    Bytes.ofUInt16 (Bytes.toUInt16 bs) = bs := by
  have hlt : LittleEndian.decode bs < UInt16.size := by
    have := LittleEndian.decode_lt bs
    rwa [h] at this
  rw [Bytes.ofUInt16, Bytes.toUInt16, UInt16.toNat_ofNat_of_lt' hlt, ← h,
    LittleEndian.encode_decode]

theorem Bytes.ofUInt32_toUInt32 {bs : Bytes} (h : bs.length = 4) :
    Bytes.ofUInt32 (Bytes.toUInt32 bs) = bs := by
  have hlt : LittleEndian.decode bs < UInt32.size := by
    have := LittleEndian.decode_lt bs
    rwa [h] at this
  rw [Bytes.ofUInt32, Bytes.toUInt32, UInt32.toNat_ofNat_of_lt' hlt, ← h,
    LittleEndian.encode_decode]

theorem Bytes.ofUInt64_toUInt64 {bs : Bytes} (h : bs.length = 8) :
    Bytes.ofUInt64 (Bytes.toUInt64 bs) = bs := by
  have hlt : LittleEndian.decode bs < UInt64.size := by
    have := LittleEndian.decode_lt bs
    rwa [h] at this
  rw [Bytes.ofUInt64, Bytes.toUInt64, UInt64.toNat_ofNat_of_lt' hlt, ← h,
    LittleEndian.encode_decode]

end SyscallTrace
