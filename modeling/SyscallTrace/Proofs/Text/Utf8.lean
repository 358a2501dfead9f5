import SyscallTrace.Text.Utf8

/-!
# Reading UTF-8 that was written

The reader of `SyscallTrace.Text.Utf8` works from the table of the Unicode Standard, which says for
every first byte what may follow it. The bytes of a text are written by dividing code points. Both
agree: the reader accepts every text, and gives back its characters (specification §15.3).

- `Utf8.encode_eq`: the bytes of a text are those of its characters.
- `Utf8.next_encodeChar`: the front of a written character is that character.
- `Utf8.decode_encode`: **a text that was written is read back**.
-/

namespace SyscallTrace

namespace Utf8

/-! ## The bytes of a text -/

/-- The loop that lists a byte array puts the bytes from a position on behind those it has. -/
theorem toListLoop_eq (bytes : ByteArray) (start : Nat) (read : List UInt8) :
    ByteArray.toList.loop bytes start read =
      read.reverse ++ bytes.data.toList.drop start := by
  fun_induction ByteArray.toList.loop bytes start read with
  | case1 start read hin ih =>
    have hlt : start < bytes.data.toList.length := hin
    have hget : bytes.get! start = bytes.data.toList[start] :=
      (getElem!_pos bytes.data start hin).trans (Array.getElem_toList hin).symm
    rw [ih, List.reverse_cons, List.append_assoc, hget, List.drop_eq_getElem_cons hlt]
    rfl
  | case2 start read hout =>
    have hle : bytes.data.toList.length ≤ start := Nat.le_of_not_lt hout
    rw [List.drop_eq_nil_of_le hle, List.append_nil]

/-- The bytes of a text are those of its characters. -/
theorem encode_eq (s : String) : encode s = s.toList.flatMap String.utf8EncodeChar := by
  have hdata : encode s = s.toByteArray.data.toList := toListLoop_eq s.toByteArray 0 []
  rw [hdata]
  conv => lhs; rw [← String.ofList_toList (s := s)]
  exact List.toList_data_toByteArray

/-! ## First bytes

The branches of `lead`, with the byte given by its number. -/

theorem toNat_byte {n : Nat} (h : n < 256) : (UInt8.ofNat n).toNat = n :=
  UInt8.toNat_ofNat_of_lt' h

/-- Bytes are compared by their numbers. -/
theorem byte_lt_iff {n : Nat} (h : n < 256) (b : UInt8) : UInt8.ofNat n < b ↔ n < b.toNat := by
  rw [UInt8.lt_iff_toNat_lt, toNat_byte h]

theorem byte_eq_iff {n : Nat} (h : n < 256) (b : UInt8) : UInt8.ofNat n = b ↔ n = b.toNat := by
  rw [← UInt8.toNat_inj, toNat_byte h]

/-- What may follow a first byte. -/
theorem lead_byte {n : Nat} (h : n < 256) :
    lead (UInt8.ofNat n) =
      if n < 0x80 then some (n, [])
      else if n < 0xC2 then none
      else if n < 0xE0 then some (n - 0xC0, [(0x80, 0xBF)])
      else if n = 0xE0 then some (0, [(0xA0, 0xBF), (0x80, 0xBF)])
      else if n = 0xED then some (0xD, [(0x80, 0x9F), (0x80, 0xBF)])
      else if n < 0xF0 then some (n - 0xE0, [(0x80, 0xBF), (0x80, 0xBF)])
      else if n = 0xF0 then some (0, [(0x90, 0xBF), (0x80, 0xBF), (0x80, 0xBF)])
      else if n < 0xF4 then some (n - 0xF0, [(0x80, 0xBF), (0x80, 0xBF), (0x80, 0xBF)])
      else if n = 0xF4 then some (4, [(0x80, 0x8F), (0x80, 0xBF), (0x80, 0xBF)])
      else none := by
  simp only [lead, byte_lt_iff h, byte_eq_iff h, toNat_byte h]
  rfl

/-- One byte that follows, within its range. -/
theorem follow_byte {value size n low high : Nat} (hn : n < 256) (hl : low ≤ n) (hh : n ≤ high)
    (hhigh : high < 256) (ranges : List (UInt8 × UInt8)) (rest : Bytes) :
    follow value size ((UInt8.ofNat low, UInt8.ofNat high) :: ranges) (UInt8.ofNat n :: rest) =
      follow (value * 64 + (n - 0x80)) (size + 1) ranges rest := by
  have hlow : UInt8.ofNat low ≤ UInt8.ofNat n := by
    rw [UInt8.le_iff_toNat_le, toNat_byte hn, toNat_byte (by omega)]
    exact hl
  have hupp : UInt8.ofNat n ≤ UInt8.ofNat high := by
    rw [UInt8.le_iff_toNat_le, toNat_byte hn, toNat_byte hhigh]
    exact hh
  rw [follow, if_pos ⟨hlow, hupp⟩, toNat_byte hn]

/-- Three bytes: the second one is restricted after the least and the greatest first bytes, which
keeps overlong forms and surrogates out. -/
theorem lead_of_three {v : Nat} (hmin : 0x800 ≤ v) (hmax : v < 0x10000)
    (hvalid : v < 0xD800 ∨ 0xDFFF < v) :
    ∃ low high, lead (UInt8.ofNat (v / 4096 % 0x10 + 0xE0)) =
        some (v / 4096, [(UInt8.ofNat low, UInt8.ofNat high), (0x80, 0xBF)]) ∧
      low ≤ v / 64 % 0x40 + 0x80 ∧ v / 64 % 0x40 + 0x80 ≤ high ∧ high < 256 := by
  have hmod : v / 4096 % 0x10 = v / 4096 := by omega
  have hlead := lead_byte (n := v / 4096 + 0xE0) (by omega)
  rw [if_neg (by omega), if_neg (by omega), if_neg (by omega)] at hlead
  rw [hmod, hlead]
  by_cases hfirst : v / 4096 = 0
  · rw [if_pos (by omega), hfirst]
    exact ⟨0xA0, 0xBF, rfl, by omega, by omega, by omega⟩
  · rw [if_neg (by omega)]
    by_cases hsurrogate : v / 4096 = 0xD
    · rw [if_pos (by omega), hsurrogate]
      exact ⟨0x80, 0x9F, rfl, by omega, by omega, by omega⟩
    · rw [if_neg (by omega), if_pos (by omega), Nat.add_sub_cancel]
      exact ⟨0x80, 0xBF, rfl, by omega, by omega, by omega⟩

/-- Four bytes: the second one is restricted after the least and the greatest first bytes, which
keeps overlong forms and too great numbers out. -/
theorem lead_of_four {v : Nat} (hmin : 0x10000 ≤ v) (hmax : v < 0x110000) :
    ∃ low high, lead (UInt8.ofNat (v / 262144 % 0x08 + 0xF0)) =
        some (v / 262144,
          [(UInt8.ofNat low, UInt8.ofNat high), (0x80, 0xBF), (0x80, 0xBF)]) ∧
      low ≤ v / 4096 % 0x40 + 0x80 ∧ v / 4096 % 0x40 + 0x80 ≤ high ∧ high < 256 := by
  have hmod : v / 262144 % 0x08 = v / 262144 := by omega
  have hlead := lead_byte (n := v / 262144 + 0xF0) (by omega)
  rw [if_neg (by omega), if_neg (by omega), if_neg (by omega), if_neg (by omega),
    if_neg (by omega), if_neg (by omega)] at hlead
  rw [hmod, hlead]
  by_cases hfirst : v / 262144 = 0
  · rw [if_pos (by omega), hfirst]
    exact ⟨0x90, 0xBF, rfl, by omega, by omega, by omega⟩
  · rw [if_neg (by omega)]
    by_cases hlast : v / 262144 = 4
    · rw [if_neg (by omega), if_pos (by omega), hlast]
      exact ⟨0x80, 0x8F, rfl, by omega, by omega, by omega⟩
    · rw [if_pos (by omega), Nat.add_sub_cancel]
      exact ⟨0x80, 0xBF, rfl, by omega, by omega, by omega⟩

/-! ## Characters -/

/-- A character is no surrogate, and not too great. -/
theorem valid_toNat (c : Char) :
    c.val.toNat < 0xD800 ∨ (0xDFFF < c.val.toNat ∧ c.val.toNat < 0x110000) := c.valid

theorem ofNat_of_eq {c : Char} {v : Nat} (h : v = c.val.toNat) : Char.ofNat v = c := by
  rw [h]
  exact Char.ofNat_toNat c

/-- The front of a written character is that character. -/
theorem next_encodeChar (c : Char) (rest : Bytes) :
    ∃ b bs, String.utf8EncodeChar c = b :: bs ∧ next b (bs ++ rest) = .char c (bs.length + 1) := by
  have hvalid := valid_toNat c
  rw [String.utf8EncodeChar]
  generalize hv : c.val.toNat = v at hvalid ⊢
  by_cases h1 : v ≤ 0x7F
  · have hlead := lead_byte (n := v) (by omega)
    rw [if_pos (by omega)] at hlead
    refine ⟨_, _, if_pos h1, ?_⟩
    simp only [next, hlead, follow, ofNat_of_eq hv.symm, List.length_nil]
  · by_cases h2 : v ≤ 0x7FF
    · have hlead := lead_byte (n := v / 64 % 0x20 + 0xC0) (by omega)
      rw [if_neg (by omega), if_neg (by omega), if_pos (by omega)] at hlead
      refine ⟨_, _, (if_neg h1).trans (if_pos h2), ?_⟩
      have hchar : Char.ofNat ((v / 64 % 0x20 + 0xC0 - 0xC0) * 64 +
          (v % 0x40 + 0x80 - 0x80)) = c := ofNat_of_eq (by omega)
      simp only [next, hlead, List.cons_append, List.nil_append]
      show follow _ 1 [(UInt8.ofNat 0x80, UInt8.ofNat 0xBF)] _ = _
      rw [follow_byte (by omega) (by omega) (by omega) (by omega), follow, hchar]
      rfl
    · by_cases h3 : v ≤ 0xFFFF
      · obtain ⟨low, high, hlead, hlow, hhigh, hbound⟩ :=
          lead_of_three (v := v) (by omega) (by omega) (by omega)
        refine ⟨_, _, (if_neg h1).trans ((if_neg h2).trans (if_pos h3)), ?_⟩
        have hchar : Char.ofNat ((v / 4096 * 64 + (v / 64 % 0x40 + 0x80 - 0x80)) * 64 +
            (v % 0x40 + 0x80 - 0x80)) = c := ofNat_of_eq (by omega)
        simp only [next, hlead, List.cons_append, List.nil_append]
        rw [follow_byte (by omega) hlow hhigh hbound]
        show follow _ 2 [(UInt8.ofNat 0x80, UInt8.ofNat 0xBF)] _ = _
        rw [follow_byte (by omega) (by omega) (by omega) (by omega), follow, hchar]
        rfl
      · obtain ⟨low, high, hlead, hlow, hhigh, hbound⟩ :=
          lead_of_four (v := v) (by omega) (by omega)
        refine ⟨_, _, (if_neg h1).trans ((if_neg h2).trans (if_neg h3)), ?_⟩
        have hchar : Char.ofNat (((v / 262144 * 64 + (v / 4096 % 0x40 + 0x80 - 0x80)) * 64 +
            (v / 64 % 0x40 + 0x80 - 0x80)) * 64 + (v % 0x40 + 0x80 - 0x80)) = c :=
          ofNat_of_eq (by omega)
        simp only [next, hlead, List.cons_append, List.nil_append]
        rw [follow_byte (by omega) hlow hhigh hbound]
        show follow _ 2 [(UInt8.ofNat 0x80, UInt8.ofNat 0xBF),
          (UInt8.ofNat 0x80, UInt8.ofNat 0xBF)] _ = _
        rw [follow_byte (by omega) (by omega) (by omega) (by omega),
          follow_byte (by omega) (by omega) (by omega) (by omega), follow, hchar]
        rfl

/-! ## Texts -/

/-- The bytes of a character that was read are passed over. -/
theorem decodeFrom_skip (offset : Nat) (chars : List Char) (bs rest : Bytes) :
    decodeFrom bs.length offset chars (bs ++ rest) =
      decodeFrom 0 (offset + bs.length) chars rest := by
  induction bs generalizing offset with
  | nil => rfl
  | cons b bs ih =>
    rw [List.length_cons, List.cons_append, decodeFrom, ih, Nat.add_right_comm, Nat.add_assoc]

/-- Characters that were written are read one after the other. -/
theorem decodeFrom_encode (cs : List Char) (offset : Nat) (chars : List Char) :
    decodeFrom 0 offset chars (cs.flatMap String.utf8EncodeChar) = .ok (chars.reverse ++ cs) := by
  induction cs generalizing offset chars with
  | nil => rw [List.flatMap_nil, decodeFrom, List.append_nil]
  | cons c cs ih =>
    obtain ⟨b, bs, hbytes, hnext⟩ := next_encodeChar c (cs.flatMap String.utf8EncodeChar)
    rw [List.flatMap_cons, hbytes, List.cons_append, decodeFrom]
    simp only [hnext, Nat.add_sub_cancel]
    rw [decodeFrom_skip, ih, List.reverse_cons, List.append_assoc]
    rfl

/-- **A text that was written is read back.** -/
theorem decode_encode (s : String) : decode (encode s) = .ok s.toList := by
  rw [encode_eq, decode, decodeFrom_encode]
  rfl

end Utf8

end SyscallTrace
