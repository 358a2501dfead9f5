/-!
# Ranges of characters

Classes of characters are given by ranges of their numbers, in increasing order. A search can stop
at the first range that begins too late (`inRanges_eq_any`).
-/

namespace SyscallTrace

namespace Text

/-- Whether a number lies in one of some increasing ranges, ends included. -/
def inRanges : List (Nat × Nat) → Nat → Bool
  | [], _ => false
  | (first, last) :: ranges, n => first ≤ n && (n ≤ last || inRanges ranges n)

@[simp] theorem inRanges_nil (n : Nat) : inRanges [] n = false := rfl

theorem inRanges_eq_any {ranges : List (Nat × Nat)}
    (increasing : ranges.Pairwise fun r s => r.1 ≤ s.1) (n : Nat) :
    inRanges ranges n = ranges.any fun r => r.1 ≤ n && n ≤ r.2 := by
  induction ranges with
  | nil => rfl
  | cons r ranges ih =>
    rw [List.pairwise_cons] at increasing
    by_cases h : r.1 ≤ n
    · simp [inRanges, h, ih increasing.2]
    · have late : (ranges.any fun s => s.1 ≤ n && n ≤ s.2) = false := by
        rw [List.any_eq_false]
        intro s hs
        have := increasing.1 s hs
        simp
        omega
      simp [inRanges, h, late]

end Text

end SyscallTrace
