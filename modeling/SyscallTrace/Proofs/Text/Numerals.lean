import SyscallTrace.Config.Basic
import SyscallTrace.Thread

/-!
# Numerals

The reader of numerals looks at one digit after the other and stops at the first fault. Taken
together, it accepts exactly the decimal notations of the numbers of its range, with a plus sign in
front of them or not, and any number of zeros. The decimal text of a thread is one of them
(specification §11.3).

- `IsDecimal`: the texts that stand for a number.
- `IntegerRange.readDigits_eq_ok_iff`: the digits that are read from any value on.
- `IntegerRange.read_unsigned_eq_ok_iff`: **the texts that are read as numbers of some bits**.
- `FieldType.read_uint64_eq_ok_iff`, `Tid.isDecimal_text`: fields of 64 bits, and threads in them.
-/

namespace SyscallTrace

/-- Digits, at least one, that stand for a number in decimal. -/
def IsDigits (cs : List Char) (n : Nat) : Prop :=
  cs ≠ [] ∧ (∀ c ∈ cs, c.isDigit = true) ∧ Nat.ofDigitChars 10 cs 0 = n

/-- A text that stands for a number in decimal: digits behind a plus sign or nothing. -/
def IsDecimal (cs : List Char) (n : Nat) : Prop :=
  ∃ digits, (cs = digits ∨ cs = '+' :: digits) ∧ IsDigits digits n

theorem not_isDigits_cons {c : Char} (h : ¬ c.isDigit = true) (cs : List Char) (n : Nat) :
    ¬ IsDigits (c :: cs) n := fun hdigits => h (hdigits.2.1 c List.mem_cons_self)

/-- Behind a plus sign there are digits only. -/
theorem isDecimal_plus_iff {cs : List Char} {n : Nat} :
    IsDecimal ('+' :: cs) n ↔ IsDigits cs n := by
  constructor
  · rintro ⟨digits, rfl | h, hdigits⟩
    · exact absurd hdigits (not_isDigits_cons (by decide) cs n)
    · cases h
      exact hdigits
  · exact fun h => ⟨cs, .inr rfl, h⟩

/-- Without a plus sign there are digits only. -/
theorem isDecimal_iff_of_ne {cs : List Char} {n : Nat} (h : ∀ digits, cs ≠ '+' :: digits) :
    IsDecimal cs n ↔ IsDigits cs n := by
  constructor
  · rintro ⟨digits, rfl | hplus, hdigits⟩
    · exact hdigits
    · exact absurd hplus (h digits)
  · exact fun hdigits => ⟨cs, .inl rfl, hdigits⟩

theorem not_isDecimal_minus (cs : List Char) (n : Nat) : ¬ IsDecimal ('-' :: cs) n := by
  rw [isDecimal_iff_of_ne (by simp)]
  exact not_isDigits_cons (by decide) cs n

/-- More digits make no number smaller. -/
theorem le_ofDigitChars (cs : List Char) (value : Nat) : value ≤ Nat.ofDigitChars 10 cs value := by
  induction cs generalizing value with
  | nil => exact Nat.le_refl value
  | cons c cs ih =>
    rw [Nat.ofDigitChars_cons]
    exact Nat.le_trans (by omega) (ih _)

namespace IntegerRange

/-- The digits that are read from a value on are digits, and the number that they stand for is in
the range. -/
theorem readDigits_eq_ok_iff {bits : Nat} {cs : List Char} {n : Int} :
    ∀ {value : Nat}, (value : Int) ≤ (unsigned bits).max →
      ((unsigned bits).readDigits 1 value cs = .ok n ↔
        (∀ c ∈ cs, c.isDigit = true) ∧ n = Nat.ofDigitChars 10 cs value ∧
          n ≤ (unsigned bits).max) := by
  induction cs with
  | nil =>
    intro value hvalue
    rw [readDigits, Except.ok.injEq, Nat.ofDigitChars_nil]
    constructor
    · rintro rfl
      exact ⟨fun c hc => absurd hc List.not_mem_nil, rfl, hvalue⟩
    · exact fun h => h.2.1.symm
  | cons c cs ih =>
    intro value hvalue
    rw [readDigits]
    by_cases hdigit : c.isDigit = true
    · rw [if_pos hdigit, Nat.ofDigitChars_cons]
      generalize c.toNat - '0'.toNat = digit
      have hnext : (value : Int) * 10 + 1 * (digit : Int) = (10 * value + digit : Nat) := by omega
      have hmin : (unsigned bits).min = 0 := rfl
      have hle := le_ofDigitChars cs (10 * value + digit)
      dsimp only
      rw [hnext]
      by_cases hlarge : ((10 * value + digit : Nat) : Int) > (unsigned bits).max
      · -- one digit too many, and those behind it do not help
        rw [if_pos hlarge]
        refine iff_of_false (fun h => nomatch h) ?_
        rintro ⟨-, rfl, hmax⟩
        omega
      · rw [if_neg hlarge, if_neg (by omega), ih (Int.not_lt.mp hlarge), List.forall_mem_cons,
          and_iff_right hdigit]
    · rw [if_neg hdigit]
      refine iff_of_false (fun h => nomatch h) ?_
      rintro ⟨hdigits, -⟩
      exact hdigit (hdigits c List.mem_cons_self)

theorem zero_le_max (bits : Nat) : ((0 : Nat) : Int) ≤ (unsigned bits).max := by
  have hpos : 0 < 1 <<< bits := by
    rw [Nat.one_shiftLeft]
    exact Nat.two_pow_pos bits
  show (0 : Int) ≤ (1 <<< bits : Nat) - 1
  omega

/-- Digits that are read as a number of some bits, from the first one on. -/
theorem readDigits_zero_eq_ok_iff {bits : Nat} {cs : List Char} {n : Int} (h : cs ≠ []) :
    (unsigned bits).readDigits 1 0 cs = .ok n ↔
      ∃ m : Nat, IsDigits cs m ∧ n = m ∧ n ≤ (unsigned bits).max := by
  refine (readDigits_eq_ok_iff (zero_le_max bits)).trans ?_
  constructor
  · rintro ⟨hdigits, hvalue, hmax⟩
    exact ⟨_, ⟨h, hdigits, rfl⟩, hvalue, hmax⟩
  · rintro ⟨m, ⟨-, hdigits, rfl⟩, hvalue, hmax⟩
    exact ⟨hdigits, hvalue, hmax⟩

/-- **The texts that are read as numbers of some bits** are those that stand for such a number in
decimal. -/
theorem read_unsigned_eq_ok_iff {bits : Nat} {cs : List Char} {n : Int} :
    (unsigned bits).read cs = .ok n ↔
      ∃ m : Nat, IsDecimal cs m ∧ n = m ∧ n ≤ (unsigned bits).max := by
  have hrefused : ∀ {error : NumeralError} {cs : List Char}, (∀ m, ¬ IsDecimal cs m) →
      ((.error error : Except NumeralError Int) = .ok n ↔
        ∃ m : Nat, IsDecimal cs m ∧ n = m ∧ n ≤ (unsigned bits).max) := by
    intro error cs hno
    refine iff_of_false (fun h => nomatch h) ?_
    rintro ⟨m, hdecimal, -⟩
    exact hno m hdecimal
  rw [read.eq_def]
  split
  · exact hrefused fun m h => ((isDecimal_iff_of_ne (by simp)).mp h).1 rfl
  · exact hrefused fun m h => (isDecimal_plus_iff.mp h).1 rfl
  · exact hrefused (not_isDecimal_minus [])
  · rename_i digits hne
    simp only [isDecimal_plus_iff]
    exact readDigits_zero_eq_ok_iff hne
  · -- no number of some bits is below zero
    rw [if_neg (show ¬ (unsigned bits).min < 0 from Int.lt_irrefl 0)]
    exact hrefused (not_isDecimal_minus _)
  · rename_i hnil _ _ hplus _
    simp only [isDecimal_iff_of_ne hplus]
    exact readDigits_zero_eq_ok_iff hnil

end IntegerRange

/-- The texts that a field of 64 bits can hold. -/
theorem FieldType.read_uint64_eq_ok_iff {text : String} {n : UInt64} :
    uint64.read text = .ok n ↔ IsDecimal text.toList n.toNat := by
  have hmax : (IntegerRange.unsigned 64).max = (UInt64.size - 1 : Nat) := rfl
  show (((IntegerRange.unsigned 64).read text.toList).mapError FieldFault.numeral).map
    (UInt64.ofNat ·.toNat) = .ok n ↔ _
  constructor
  · intro h
    cases hread : (IntegerRange.unsigned 64).read text.toList with
    | error error =>
      rw [hread] at h
      cases h
    | ok value =>
      rw [hread] at h
      obtain ⟨m, hdecimal, rfl, hle⟩ := IntegerRange.read_unsigned_eq_ok_iff.mp hread
      cases h
      have hlt : m < UInt64.size := by
        rw [hmax] at hle
        simp only [UInt64.size] at hle ⊢
        omega
      show IsDecimal text.toList (UInt64.ofNat (m : Int).toNat).toNat
      rw [Int.toNat_natCast, UInt64.toNat_ofNat_of_lt' hlt]
      exact hdecimal
  · intro hdecimal
    have hread : (IntegerRange.unsigned 64).read text.toList = .ok (n.toNat : Int) := by
      refine IntegerRange.read_unsigned_eq_ok_iff.mpr ⟨n.toNat, hdecimal, rfl, ?_⟩
      rw [hmax]
      exact Int.ofNat_le.mpr (Nat.le_sub_one_of_lt n.toNat_lt)
    rw [hread]
    show Except.ok (UInt64.ofNat (n.toNat : Int).toNat) = _
    rw [Int.toNat_natCast, UInt64.ofNat_toNat]

/-- The decimal text of a thread are digits that stand for its id. -/
theorem Tid.isDigits_text (t : Tid) : IsDigits t.text.toList t.raw.toNat := by
  rw [text, Nat.toString_eq_ofList_toDigits, String.toList_ofList]
  exact ⟨Nat.toDigits_ne_nil, fun c hc => Nat.isDigit_of_mem_toDigits (by decide) (by decide) hc,
    Nat.ofDigitChars_ten_toDigits⟩

theorem Tid.isDecimal_text (t : Tid) : IsDecimal t.text.toList t.raw.toNat :=
  ⟨_, .inl rfl, t.isDigits_text⟩

end SyscallTrace
