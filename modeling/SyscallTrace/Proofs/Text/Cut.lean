import SyscallTrace.Proofs.Text.Utf8
import SyscallTrace.Record.Describe

/-!
# Texts that are cut

A text that is cut behind a number of bytes loses its last characters, and one of them may be
divided. Then the reader gets as far as the last whole character and finds the front of another one
behind it. A text that ends at its first NUL does so in bytes as well as in characters
(specification §10, §15.3).

- `Utf8.bytes`: the bytes of some characters.
- `Describe.cut_append`, `Describe.cut_isPrefixOf`: the longest front of given size.
- `Describe.Undivided`, `Describe.undivided_iff`: when no character is divided.
- `Utf8.decode_take`: **what is read of a text that is cut**.
- `Utf8.beforeNul_bytes`: the bytes up to the first NUL are those of the characters up to it.
- `Param.text_of_ok`, `Param.text_of_error`: what a parameter gives of them.
-/

namespace SyscallTrace

namespace Utf8

/-- The bytes of some characters. -/
def bytes (cs : List Char) : Bytes := cs.flatMap String.utf8EncodeChar

@[simp] theorem bytes_nil : bytes [] = [] := rfl

theorem bytes_cons (c : Char) (cs : List Char) :
    bytes (c :: cs) = String.utf8EncodeChar c ++ bytes cs := List.flatMap_cons

theorem length_bytes_cons (c : Char) (cs : List Char) :
    (bytes (c :: cs)).length = c.utf8Size + (bytes cs).length := by
  rw [bytes_cons, List.length_append, String.length_utf8EncodeChar]

theorem length_bytes_replicate (n : Nat) (c : Char) :
    (bytes (List.replicate n c)).length = n * c.utf8Size := by
  induction n with
  | zero => rw [Nat.zero_mul]; rfl
  | succ n ih =>
    rw [List.replicate_succ, length_bytes_cons, ih, Nat.add_mul, Nat.one_mul, Nat.add_comm]

theorem encode_eq_bytes (s : String) : encode s = bytes s.toList := encode_eq s

theorem utf8ByteSize_ofList (cs : List Char) :
    (String.ofList cs).utf8ByteSize = (bytes cs).length := by
  rw [← String.size_toByteArray, String.toByteArray_ofList, bytes]
  simp [List.utf8Encode]

end Utf8

/-! ## The longest front of given size -/

namespace Describe

open Utf8 (bytes length_bytes_cons)

/-- What is kept is a front of the text. -/
theorem cut_isPrefixOf (limit : Nat) (cs : List Char) : cut limit cs <+: cs := by
  induction cs generalizing limit with
  | nil => exact List.prefix_refl []
  | cons c cs ih =>
    rw [cut]
    split
    · exact List.cons_prefix_cons.mpr ⟨rfl, ih _⟩
    · exact List.nil_prefix

/-- What is kept fits the limit. -/
theorem length_cut_le (limit : Nat) (cs : List Char) : (bytes (cut limit cs)).length ≤ limit := by
  induction cs generalizing limit with
  | nil => exact Nat.zero_le _
  | cons c cs ih =>
    rw [cut]
    split
    · have hrest := ih (limit - c.utf8Size)
      rw [length_bytes_cons]
      omega
    · exact Nat.zero_le _

/-- Characters that fit are in the front. -/
theorem cut_append {front : List Char} {limit : Nat} (h : (bytes front).length ≤ limit)
    (back : List Char) :
    cut limit (front ++ back) = front ++ cut (limit - (bytes front).length) back := by
  induction front generalizing limit with
  | nil => rfl
  | cons c front ih =>
    rw [length_bytes_cons] at h ⊢
    rw [List.cons_append, cut, if_pos (by omega), ih (by omega), Nat.sub_sub]
    rfl

/-- No character fits into nothing. -/
theorem cut_zero (cs : List Char) : cut 0 cs = [] := by
  cases cs with
  | nil => rfl
  | cons c cs => exact if_neg (Nat.not_le.mpr c.utf8Size_pos)

/-- Whether a limit for the number of bytes divides no character: the text ends before it, or one of
its characters ends there. -/
def Undivided (limit : Nat) (cs : List Char) : Prop :=
  (bytes cs).length ≤ limit ∨ ∃ front, front <+: cs ∧ (bytes front).length = limit

/-- No character is divided if and only if the front is as long as it may be. -/
theorem undivided_iff {limit : Nat} {cs : List Char} :
    Undivided limit cs ↔ (bytes (cut limit cs)).length = min limit (bytes cs).length := by
  constructor
  · rintro (hle | ⟨front, ⟨back, rfl⟩, hlength⟩)
    · have hall := cut_append hle []
      rw [List.append_nil, cut, List.append_nil] at hall
      rw [hall, Nat.min_eq_right hle]
    · rw [cut_append (Nat.le_of_eq hlength), hlength, Nat.sub_self, cut_zero, List.append_nil,
        hlength]
      refine (Nat.min_eq_left ?_).symm
      rw [bytes, List.flatMap_append, List.length_append, ← hlength]
      exact Nat.le_add_right _ _
  · intro h
    by_cases hle : (bytes cs).length ≤ limit
    · exact .inl hle
    · rw [Nat.min_eq_left (Nat.le_of_not_le hle)] at h
      exact .inr ⟨cut limit cs, cut_isPrefixOf limit cs, h⟩

end Describe

/-! ## Reading -/

namespace Utf8

open Describe (cut)

/-- Each of the bytes that follow a first byte counts. -/
theorem size_of_follow {ranges : List (UInt8 × UInt8)} :
    ∀ {value size n : Nat} {bs : Bytes} {c : Char},
      follow value size ranges bs = .char c n → n = size + ranges.length := by
  induction ranges with
  | nil =>
    intro value size n bs c h
    cases h
    rfl
  | cons range ranges ih =>
    intro value size n bs c h
    cases bs with
    | nil => cases h
    | cons b bs =>
      rw [follow] at h
      split at h
      · rw [ih h, List.length_cons, Nat.add_assoc, Nat.add_comm 1]
      · cases h

/-- Of a character, some of the bytes that follow the first one are the front of it. -/
theorem follow_take {ranges : List (UInt8 × UInt8)} :
    ∀ {value size n k : Nat} {bs : Bytes} {c : Char},
      follow value size ranges bs = .char c n → k < ranges.length →
        follow value size ranges (bs.take k) = .cut := by
  induction ranges with
  | nil =>
    intro value size n k bs c _ hk
    cases hk
  | cons range ranges ih =>
    intro value size n k bs c h hk
    cases bs with
    | nil => cases h
    | cons b bs =>
      -- with no byte left the character is cut, else the first one is in its range
      cases k with
      | zero => rfl
      | succ k =>
        rw [follow] at h
        rw [List.take_succ_cons, follow]
        split at h
        · rename_i hrange
          rw [if_pos hrange]
          exact ih h (Nat.lt_of_succ_lt_succ hk)
        · cases h

/-- The front of a character is not yet that character. -/
theorem next_take {b : UInt8} {bs : Bytes} {c : Char} {n k : Nat}
    (h : next b bs = .char c (n + 1)) (hk : k < n) : next b (bs.take k) = .cut := by
  rw [next] at h ⊢
  cases hlead : lead b with
  | none =>
    rw [hlead] at h
    cases h
  | some first =>
    obtain ⟨value, ranges⟩ := first
    rw [hlead] at h
    have hsize := size_of_follow h
    exact follow_take h (by omega)

/-- What is read of characters that are cut behind a number of bytes. -/
theorem decodeFrom_take {cs : List Char} :
    ∀ (limit offset : Nat) (chars : List Char),
      decodeFrom 0 offset chars ((bytes cs).take limit) =
        if (bytes (cut limit cs)).length = min limit (bytes cs).length then
          .ok (chars.reverse ++ cut limit cs)
        else
          .error { validUpTo := offset + (bytes (cut limit cs)).length, errorLength := none } := by
  induction cs with
  | nil =>
    intro limit offset chars
    rw [bytes_nil, List.take_nil, decodeFrom, cut, bytes_nil, List.length_nil,
      if_pos (Nat.min_zero limit).symm, List.append_nil]
  | cons c cs ih =>
    intro limit offset chars
    obtain ⟨b, bs, hbytes, hnext⟩ := next_encodeChar c ((bytes cs).take (limit - c.utf8Size))
    have hsize : bs.length + 1 = c.utf8Size := by
      rw [← String.length_utf8EncodeChar, hbytes, List.length_cons]
    rw [cut, bytes_cons, hbytes]
    by_cases hfits : c.utf8Size ≤ limit
    · -- the whole character is there
      have htake : ((b :: bs) ++ bytes cs).take limit =
          b :: (bs ++ (bytes cs).take (limit - c.utf8Size)) := by
        rw [List.take_append, List.take_of_length_le (by rw [List.length_cons]; omega),
          List.length_cons, hsize]
        rfl
      rw [htake, decodeFrom, if_pos hfits, length_bytes_cons, List.length_append, List.length_cons,
        hsize]
      simp only [hnext, Nat.add_sub_cancel]
      rw [decodeFrom_skip, ih]
      by_cases hwhole :
          (bytes (cut (limit - c.utf8Size) cs)).length = min (limit - c.utf8Size) (bytes cs).length
      · rw [if_pos hwhole, if_pos (by omega), List.reverse_cons, List.append_assoc]
        rfl
      · have hoffset : offset + 1 + bs.length + (bytes (cut (limit - c.utf8Size) cs)).length =
            offset + (c.utf8Size + (bytes (cut (limit - c.utf8Size) cs)).length) := by omega
        rw [if_neg hwhole, if_neg (by omega), hoffset]
    · rw [if_neg hfits, bytes_nil, List.length_nil]
      cases limit with
      | zero =>
        rw [if_pos (Nat.zero_min _).symm, List.take_zero, decodeFrom, List.append_nil]
      | succ k =>
        -- some of its bytes are there, but not all
        have hshort : k < bs.length := by omega
        have hdivided := next_take hnext hshort
        rw [List.take_append_of_le_length (Nat.le_of_lt hshort)] at hdivided
        have htake : ((b :: bs) ++ bytes cs).take (k + 1) = b :: bs.take k := by
          rw [List.cons_append, List.take_succ_cons,
            List.take_append_of_le_length (Nat.le_of_lt hshort)]
        rw [htake, decodeFrom, if_neg (by rw [List.length_append, List.length_cons]; omega)]
        simp only [hdivided]
        rfl

/-- **What is read of a text that is cut.** If no character is divided, the front that is left, and
otherwise the reader gets as far as the last whole character. -/
theorem decode_take (limit : Nat) (cs : List Char) :
    decode ((bytes cs).take limit) =
      if (bytes (cut limit cs)).length = min limit (bytes cs).length then .ok (cut limit cs)
      else .error { validUpTo := (bytes (cut limit cs)).length, errorLength := none } := by
  rw [decode, decodeFrom_take, Nat.zero_add]
  rfl

/-! ## Texts that end at a NUL -/

/-- No other character has a NUL among its bytes. -/
theorem nul_not_mem_encodeChar {c : Char} (h : c ≠ '\x00') : 0 ∉ String.utf8EncodeChar c := by
  have hvalue : c.val.toNat ≠ 0 := fun hzero => h (Char.ext (UInt32.toNat_inj.mp hzero))
  have hbyte : ∀ n, 0 < n → n < 256 → (0 : UInt8) ≠ UInt8.ofNat n := by
    intro n hpos hlt hzero
    have hnat := congrArg UInt8.toNat hzero
    rw [toNat_byte hlt] at hnat
    exact Nat.ne_of_lt hpos hnat
  rw [String.utf8EncodeChar]
  generalize c.val.toNat = v at hvalue
  by_cases h1 : v ≤ 0x7F
  · rw [if_pos h1, List.mem_singleton]
    exact hbyte v (by omega) (by omega)
  · by_cases h2 : v ≤ 0x7FF
    · rw [if_neg h1, if_pos h2]
      simp only [List.mem_cons, List.not_mem_nil, or_false, not_or]
      exact ⟨hbyte _ (by omega) (by omega), hbyte _ (by omega) (by omega)⟩
    · by_cases h3 : v ≤ 0xFFFF
      · rw [if_neg h1, if_neg h2, if_pos h3]
        simp only [List.mem_cons, List.not_mem_nil, or_false, not_or]
        exact ⟨hbyte _ (by omega) (by omega), hbyte _ (by omega) (by omega),
          hbyte _ (by omega) (by omega)⟩
      · rw [if_neg h1, if_neg h2, if_neg h3]
        simp only [List.mem_cons, List.not_mem_nil, or_false, not_or]
        exact ⟨hbyte _ (by omega) (by omega), hbyte _ (by omega) (by omega),
          hbyte _ (by omega) (by omega), hbyte _ (by omega) (by omega)⟩

/-- The bytes up to the first NUL are those of the characters up to it. -/
theorem beforeNul_bytes (cs : List Char) :
    Bytes.beforeNul (bytes cs) = bytes (cs.takeWhile (· != '\x00')) := by
  induction cs with
  | nil => rfl
  | cons c cs ih =>
    by_cases h : c = '\x00'
    · rw [h]
      rfl
    · have hkeep : (c != '\x00') = true := bne_iff_ne.mpr h
      rw [List.takeWhile_cons, if_pos hkeep, bytes_cons, bytes_cons, ← ih, Bytes.beforeNul,
        Bytes.beforeNul, List.takeWhile_append_of_pos]
      intro b hb
      exact bne_iff_ne.mpr fun hzero => nul_not_mem_encodeChar h (hzero ▸ hb)

end Utf8

/-! ## The text of a parameter -/

namespace Param

variable {p : Param}

/-- A string parameter is read up to its first NUL. -/
theorem text_of_ok (h : p.type.isString = true) {chars : List Char}
    (hdecode : Utf8.decode (Bytes.beforeNul p.data) = .ok chars) :
    p.text = .ok (String.ofList chars) := by
  rw [text, expect, if_pos h]
  simp only [bind, Except.bind, hdecode]

theorem text_of_error (h : p.type.isString = true) {e : Utf8.DecodeError}
    (hdecode : Utf8.decode (Bytes.beforeNul p.data) = .error e) :
    p.text = .error (.notText (Bytes.beforeNul p.data) e) := by
  rw [text, expect, if_pos h]
  simp only [bind, Except.bind, hdecode]

end Param

end SyscallTrace
