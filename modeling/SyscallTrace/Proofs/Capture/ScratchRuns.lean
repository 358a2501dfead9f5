import SyscallTrace.Proofs.Capture.Content

/-!
# The contract of the scratch buffer

Whatever is done with a buffer, its content never grows beyond the capacity, and an operation that
fails leaves it as it was. Some operations overshoot before they notice: an append takes bytes back
that turn out to be too many, and a window is laid over the end of the content before it is known
how much of it counts. Sums of sizes stop at the greatest size that there is, so that a sum that
does not fit is still greater than every capacity below that size (specification §4.2).

- `Scratch.Op`, `Scratch.after`: the operations, and a buffer after some of them.
- `Scratch.getElem?_overwrite`: what a write changes, byte by byte.
- `Scratch.Contract`: what each operation does, and when it fails.
- `Scratch.within_apply`, `Scratch.within_after`: one operation, and all of them, keep the content
  within the capacity.
- `Scratch.contract_after`: **the contract holds after every run**.
-/

namespace SyscallTrace

namespace Scratch

/-! ## Operations -/

/-- An operation on a buffer. -/
inductive Op where
  | write (offset : Nat) (bs : Bytes)
  | reserve (size : Nat)
  | append (bs : Bytes)
  | fill (max : Nat) (put : Bytes → Filled)
  | truncate (length : Nat)
  | clear
  | take

/-- The buffer behind an operation, whether it fails or not. -/
def apply (s : Scratch) : Op → Scratch
  | .write offset bs => (s.write offset bs).2
  | .reserve size => (s.reserve size).2
  | .append bs => (s.append bs).2
  | .fill max put => (s.fill max put).2
  | .truncate length => s.truncate length
  | .clear => s.clear
  | .take => s.take.2

/-- The buffer behind some operations. -/
def after : Scratch → List Op → Scratch
  | s, [] => s
  | s, op :: ops => (s.apply op).after ops

/-! ## Sums of sizes -/

/-- A sum that is too large for the capacity is told from one that is not, even where it stops. -/
theorem capacity_lt_addSizes_iff {capacity : Nat} (h : capacity < maxSize) (a b : Nat) :
    capacity < addSizes a b ↔ capacity < a + b :=
  ⟨fun hsum => (Nat.lt_min.mp hsum).1, fun hsum => Nat.lt_min.mpr ⟨hsum, h⟩⟩

/-! ## Writes -/

/-- Content with zeros behind it. -/
theorem getElem?_padded (content : Bytes) (count i : Nat) :
    (content ++ List.replicate count 0)[i]? =
      if i < content.length then content[i]?
      else if i < content.length + count then some 0 else none := by
  by_cases hi : i < content.length
  · rw [if_pos hi, List.getElem?_append_left hi]
  · rw [if_neg hi, List.getElem?_append_right (Nat.le_of_not_lt hi), List.getElem?_replicate]
    by_cases hzero : i < content.length + count
    · rw [if_pos hzero, if_pos (by omega)]
    · rw [if_neg hzero, if_neg (by omega)]

/-- **What a write changes.** The bytes of the content that are not written to stay, and there are
zeros between its old end and the new bytes. -/
theorem getElem?_overwrite (content : Bytes) (offset : Nat) (bs : Bytes) (i : Nat) :
    (overwrite content offset bs)[i]? =
      if offset ≤ i ∧ i < offset + bs.length then bs[i - offset]?
      else if i < content.length then content[i]?
      else if i < offset then some 0 else none := by
  unfold overwrite
  generalize hpadded : content ++ List.replicate (offset + bs.length - content.length) 0 = padded
  have hget := getElem?_padded content (offset + bs.length - content.length) i
  rw [hpadded] at hget
  have hlength : (padded.take offset).length = offset := by
    rw [List.length_take, ← hpadded, List.length_append, List.length_replicate]
    omega
  dsimp only
  rw [List.append_assoc]
  by_cases hbefore : i < offset
  · have houtside : ¬ (offset ≤ i ∧ i < offset + bs.length) := by omega
    have hshort : i < content.length + (offset + bs.length - content.length) := by omega
    rw [List.getElem?_append_left (by omega), List.getElem?_take_of_lt hbefore, hget,
      if_neg houtside, if_pos hbefore, if_pos hshort]
  · rw [List.getElem?_append_right (by omega), hlength]
    by_cases hinside : i < offset + bs.length
    · rw [List.getElem?_append_left (by omega), if_pos ⟨Nat.le_of_not_lt hbefore, hinside⟩]
    · -- behind the new bytes there is what was there before
      have houtside : ¬ (offset ≤ i ∧ i < offset + bs.length) := fun h => hinside h.2
      have hindex : offset + bs.length + (i - offset - bs.length) = i := by omega
      rw [List.getElem?_append_right (by omega), List.getElem?_drop, hindex, hget,
        if_neg houtside, if_neg hbefore]
      by_cases hold : i < content.length
      · rw [if_pos hold, if_pos hold]
      · rw [if_neg hold, if_neg hold, if_neg (by omega)]

theorem length_overwrite (content : Bytes) (offset : Nat) (bs : Bytes) :
    (overwrite content offset bs).length = max content.length (offset + bs.length) := by
  simp only [overwrite, List.length_append, List.length_take, List.length_drop,
    List.length_replicate]
  omega

theorem write_eq {s : Scratch} (h : s.capacity < maxSize) (offset : Nat) (bs : Bytes) :
    s.write offset bs =
      if s.capacity < offset + bs.length then
        (.error (s.full (addSizes offset bs.length)), s)
      else (.ok (), { s with bytes := overwrite s.bytes offset bs }) := by
  rw [write]
  by_cases hfull : s.capacity < offset + bs.length
  · rw [if_pos hfull, if_pos ((capacity_lt_addSizes_iff h _ _).mpr hfull)]
  · rw [if_neg hfull, if_neg (fun hsum => hfull ((capacity_lt_addSizes_iff h _ _).mp hsum))]

/-! ## Additions -/

theorem reserve_eq {s : Scratch} (h : s.capacity < maxSize) (size : Nat) :
    s.reserve size =
      if s.capacity < s.length + size then (.error (s.full (addSizes s.length size)), s)
      else (.ok s.length, s.extend (List.replicate size 0)) := by
  rw [reserve]
  by_cases hfull : s.capacity < s.length + size
  · rw [if_pos hfull, if_pos ((capacity_lt_addSizes_iff h _ _).mpr hfull)]
  · rw [if_neg hfull, if_neg (fun hsum => hfull ((capacity_lt_addSizes_iff h _ _).mp hsum))]
    rfl

/-! ## Runs -/

/-- Whether the content of a buffer is within its capacity. -/
def Within (s : Scratch) (capacity : Nat) : Prop :=
  s.capacity = capacity ∧ s.length ≤ capacity

theorem Within.extend {s : Scratch} {capacity : Nat} (h : s.Within capacity) {bs : Bytes}
    (hroom : s.length + bs.length ≤ capacity) : (s.extend bs).Within capacity := by
  refine ⟨h.1, ?_⟩
  rw [length_extend]
  exact hroom

/-- A window is no larger than the room that there is. -/
theorem length_kept_le (s : Scratch) (max reported : Nat) (bs : Bytes) :
    ((laidOver (s.window max) bs).take (min reported (s.window max).length)).length ≤
      s.remaining := by
  rw [List.length_take, length_laidOver, length_window]
  omega

/-- **One operation** keeps the content within the capacity. -/
theorem within_apply {s : Scratch} {capacity : Nat} (hcapacity : capacity < maxSize)
    (h : s.Within capacity) (op : Op) : (s.apply op).Within capacity := by
  obtain ⟨rfl, hroom⟩ := h
  cases op with
  | write offset bs =>
    rw [apply, write_eq hcapacity]
    split
    · exact ⟨rfl, hroom⟩
    · refine ⟨rfl, ?_⟩
      show (overwrite s.bytes offset bs).length ≤ s.capacity
      rw [length_overwrite]
      -- what is written may end within the content or behind it
      exact Nat.max_le.mpr ⟨hroom, by omega⟩
  | reserve size =>
    rw [apply, reserve_eq hcapacity]
    split
    · exact ⟨rfl, hroom⟩
    · refine Within.extend ⟨rfl, hroom⟩ ?_
      rw [List.length_replicate]
      omega
  | append bs =>
    rw [apply, append_eq]
    split
    · exact ⟨rfl, hroom⟩
    · exact Within.extend ⟨rfl, hroom⟩ (by omega)
  | fill max put =>
    rw [apply, fill_eq_ite]
    split
    · exact ⟨rfl, hroom⟩
    · refine Within.extend ⟨rfl, hroom⟩ ?_
      have hkept := length_kept_le s max (put (s.window max)).reported (put (s.window max)).bytes
      rw [remaining] at hkept
      omega
  | truncate length =>
    refine ⟨rfl, ?_⟩
    show (s.bytes.take length).length ≤ s.capacity
    rw [List.length_take]
    exact Nat.le_trans (Nat.min_le_right _ _) hroom
  | clear => exact ⟨rfl, Nat.zero_le _⟩
  | take => exact ⟨rfl, Nat.zero_le _⟩

/-- **All operations** keep the content within the capacity. -/
theorem within_after {capacity : Nat} (hcapacity : capacity < maxSize) (ops : List Op) :
    ∀ {s : Scratch}, s.Within capacity → (s.after ops).Within capacity := by
  induction ops with
  | nil => exact fun h => h
  | cons op ops ih => exact fun h => ih (within_apply hcapacity h op)

/-! ## The contract -/

/-- What the operations on a buffer that may fail do. A failing one leaves the buffer as it was. -/
structure Contract (s : Scratch) : Prop where
  /-- A write fails if it would end behind the capacity. -/
  write_full : ∀ offset bs, s.capacity < offset + bs.length →
    s.write offset bs = (.error (s.full (addSizes offset bs.length)), s)
  /-- Otherwise it changes only what is written to, and puts zeros between the old end and that. -/
  write : ∀ offset bs, offset + bs.length ≤ s.capacity →
    ∃ content, s.write offset bs = (.ok (), { s with bytes := content }) ∧
      ∀ i, content[i]? =
        if offset ≤ i ∧ i < offset + bs.length then bs[i - offset]?
        else if i < s.length then s.bytes[i]?
        else if i < offset then some 0 else none
  /-- A reservation fails if there is no room for it. -/
  reserve_full : ∀ size, s.capacity < s.length + size →
    s.reserve size = (.error (s.full (addSizes s.length size)), s)
  /-- Otherwise it adds zeros at the end. -/
  reserve : ∀ size, s.length + size ≤ s.capacity →
    s.reserve size = (.ok s.length, { s with bytes := s.bytes ++ List.replicate size 0 })
  /-- An append fails if there is no room for the bytes. -/
  append_full : ∀ bs, s.capacity < s.length + bs.length →
    s.append bs = (.error (s.full (s.length + bs.length)), s)
  /-- Otherwise it adds them at the end. -/
  append : ∀ bs, s.length + bs.length ≤ s.capacity →
    s.append bs = (.ok bs.length, { s with bytes := s.bytes ++ bs })
  /-- A window of zeros is handed out, as large as there is room for. That is a failure if it is
  smaller than it should be, and reported full. -/
  fill_full : ∀ max put,
    let window : Bytes := List.replicate (min max s.remaining) 0
    window.length < max ∧ window.length ≤ (put window).reported →
      s.fill max put = (.error (s.full (addSizes s.length max)), s)
  /-- Otherwise as many bytes of the window are kept as are reported and are there. -/
  fill : ∀ max put,
    let window : Bytes := List.replicate (min max s.remaining) 0
    let kept := min (put window).reported window.length
    ¬ (window.length < max ∧ window.length ≤ (put window).reported) →
      s.fill max put =
        (.ok kept, { s with bytes := s.bytes ++ (laidOver window (put window).bytes).take kept })

/-- The contract holds of every buffer whose capacity is below the greatest size. -/
theorem contract {s : Scratch} (h : s.capacity < maxSize) : s.Contract where
  write_full offset bs hfull := by rw [write_eq h, if_pos hfull]
  write offset bs hroom := by
    rw [write_eq h, if_neg (Nat.not_lt.mpr hroom)]
    exact ⟨_, rfl, getElem?_overwrite s.bytes offset bs⟩
  reserve_full size hfull := by rw [reserve_eq h, if_pos hfull]
  reserve size hroom := by
    rw [reserve_eq h, if_neg (Nat.not_lt.mpr hroom)]
    rfl
  append_full bs hfull := by rw [append_eq, if_pos hfull]
  append bs hroom := by
    rw [append_eq, if_neg (Nat.not_lt.mpr hroom)]
    rfl
  fill_full max put hfull := (s.fill_eq_ite max put).trans (if_pos hfull)
  fill max put hroom := (s.fill_eq_ite max put).trans (if_neg hroom)

/-- **The contract holds after every run** of operations on a buffer that was empty, and the content
is within the capacity, so that the room that is left is never negative. -/
theorem contract_after {capacity : Nat} (hcapacity : capacity < maxSize) (ops : List Op) :
    let s := ({ capacity } : Scratch).after ops
    s.capacity = capacity ∧ s.length + s.remaining = capacity ∧ s.Contract := by
  intro s
  obtain ⟨hsame, hroom⟩ : s.Within capacity :=
    within_after hcapacity ops ⟨rfl, Nat.zero_le capacity⟩
  refine ⟨hsame, ?_, contract (hsame ▸ hcapacity)⟩
  rw [remaining, hsame]
  exact Nat.add_sub_cancel' hroom

/-- Eight bytes of room: an append that is too long, bytes that are thrown away, and a window that
was made smaller and is reported full leave one zero. The next window is all zeros again, and a
report of more than it holds counts for what it holds. -/
theorem contract_after_discarding :
    let s := ({ capacity := 8 } : Scratch).after
      [.write 2 [1, 2], .append [9, 9, 9, 9, 9], .append [3, 4], .truncate 1,
        .fill 100 fun _ => ⟨[7], 200⟩]
    8 < maxSize ∧ s.bytes = [0] ∧ s.length + s.remaining = 8 ∧
      s.fill 3 (fun window => ⟨window, 9⟩) = (.ok 3, { s with bytes := [0, 0, 0, 0] }) := by
  intro s
  have hcapacity : 8 < maxSize := by decide
  obtain ⟨-, hroom, hcontract⟩ := contract_after hcapacity
    [.write 2 [1, 2], .append [9, 9, 9, 9, 9], .append [3, 4], .truncate 1,
      .fill 100 fun _ => ⟨[7], 200⟩]
  exact ⟨hcapacity, rfl, hroom, hcontract.fill 3 _ (by decide)⟩

end Scratch

end SyscallTrace
