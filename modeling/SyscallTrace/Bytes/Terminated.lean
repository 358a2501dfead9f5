import SyscallTrace.Bytes.LittleEndian

/-!
# Terminated byte strings

Names and paths end at their first NUL. A byte string without one is taken whole, so cutting is
total and cutting twice is cutting once (specification §4.3).
-/

namespace SyscallTrace

/-- The bytes before the first NUL, or all of them when there is none. -/
def Bytes.beforeNul (bs : Bytes) : Bytes := bs.takeWhile (· != 0)

theorem Bytes.beforeNul_cons {b : UInt8} (hb : b ≠ 0) (bs : Bytes) :
    Bytes.beforeNul (b :: bs) = b :: Bytes.beforeNul bs :=
  List.takeWhile_cons_of_pos (bne_iff_ne.mpr hb)

theorem Bytes.beforeNul_of_not_mem {bs : Bytes} (h : 0 ∉ bs) : Bytes.beforeNul bs = bs := by
  induction bs with
  | nil => rfl
  | cons b bs ih =>
    rw [List.mem_cons, not_or] at h
    rw [Bytes.beforeNul_cons (Ne.symm h.1), ih h.2]

theorem Bytes.not_mem_beforeNul (bs : Bytes) : 0 ∉ Bytes.beforeNul bs := by
  induction bs with
  | nil => exact List.not_mem_nil
  | cons b bs ih =>
    by_cases hb : b = 0
    · rw [hb]
      exact List.not_mem_nil
    · rw [Bytes.beforeNul_cons hb, List.mem_cons, not_or]
      exact ⟨Ne.symm hb, ih⟩

/-- What is cut once more has no NUL either. -/
theorem Bytes.not_mem_take_beforeNul (bs : Bytes) (limit : Nat) :
    0 ∉ (Bytes.beforeNul bs).take limit :=
  fun h => Bytes.not_mem_beforeNul bs (List.mem_of_mem_take h)

/-- A NUL behind bytes without one is where they end. -/
theorem Bytes.beforeNul_append_nul {bs : Bytes} (h : 0 ∉ bs) :
    Bytes.beforeNul (bs ++ [0]) = bs := by
  rw [Bytes.beforeNul, List.takeWhile_append_of_pos]
  · rw [List.takeWhile_cons_of_neg (by decide), List.append_nil]
  · intro b hb
    exact bne_iff_ne.mpr fun hzero => h (hzero ▸ hb)

@[simp] theorem Bytes.beforeNul_beforeNul (bs : Bytes) :
    Bytes.beforeNul (Bytes.beforeNul bs) = Bytes.beforeNul bs :=
  Bytes.beforeNul_of_not_mem (Bytes.not_mem_beforeNul bs)

end SyscallTrace
