import SyscallTrace.Proofs.Capture.Run

/-!
# Reachable encoders

The encoders that there are: those that an event starts with, and what bytes in front of values and
pushes make of them. In each of them there is room for what is staged, and the buffer begins with a
header and prefixes, so what a push gives can be told from what is written for its value
(specification §15.1).

- `Encoder.Reachable`, `Encoder.Reachable.stages`: the encoders, and what is always true of them.
- `Encoder.RecordsIf`: a push that records bytes if they fit, and gives the event up otherwise.
- `Encoder.Reachable.push_eq`, `Encoder.Reachable.recordsIf`: **a push is told by what is written for
  it**.
- `Encoder.Reachable.scratch_skipping`: taking nothing leaves the buffer as it was.
-/

namespace SyscallTrace

namespace Encoder

/-- The encoders that an event may come to. -/
inductive Reachable : Encoder → Prop
  | begin {scratch : Scratch} {settings : CaptureSettings} {memory : Memory} {event : EventType}
      {time : Timestamp} {tid : Tid} {e : Encoder}
      (h : Encoder.begin scratch settings memory event time tid = .ok e) : Reachable e
  | withVariant {e : Encoder} (h : Reachable e) (variant : UInt8) : Reachable (e.withVariant variant)
  | push {e : Encoder} (h : Reachable e) (value : Value) : Reachable (e.push value).2

/-- A byte in front of the next value is not staged yet. -/
theorem Stages.withVariant {start e : Encoder} {parts : List Bytes} (h : Stages start parts e)
    (variant : UInt8) : Stages start parts (e.withVariant variant) := by
  obtain ⟨_, aborted, hparts, hmissing⟩ := h
  exact .mk (some variant) aborted hparts hmissing

/-- Every encoder has some values staged. -/
theorem Reachable.stages {e : Encoder} (h : Reachable e) :
    ∃ start parts, Stages start parts e := by
  induction h with
  | begin h => exact ⟨_, _, stages_begin h⟩
  | withVariant _ variant ih =>
    obtain ⟨start, parts, hstages⟩ := ih
    exact ⟨start, parts, hstages.withVariant variant⟩
  | push _ value ih =>
    obtain ⟨start, parts, hstages⟩ := ih
    rcases hstages.push value with ⟨error, -, hkept⟩ | ⟨field, -, -, -, -, htaken⟩
    · exact ⟨start, parts, hkept⟩
    · exact ⟨start, _, htaken⟩

/-- A run leads to a reachable encoder. -/
theorem Reachable.run {e : Encoder} (h : Reachable e) (pushes : List Push) :
    Reachable (e.run pushes).2 := by
  induction pushes generalizing e with
  | nil => exact h
  | cons p pushes ih =>
    refine ih (.push ?_ p.value)
    rw [prepare]
    cases p.variant with
    | none => exact h
    | some variant => exact h.withVariant variant

/-- A push that records bytes if they fit, and gives the event up for lack of room otherwise. -/
structure RecordsIf (e : Encoder) (fits : Prop) (data : Bytes)
    (result : Except EncodeError Nat × Encoder) : Prop where
  recorded : fits → result = e.recording data
  full : ¬ fits → ∃ full, result = (.error (.bufferFull full), e.givenUp)

namespace RecordsIf

variable {e : Encoder} {fits other : Prop} {data : Bytes}
  {result result' : Except EncodeError Nat × Encoder}

theorem of_fits (h : fits) : e.RecordsIf fits data (e.recording data) where
  recorded _ := rfl
  full hfull := absurd h hfull

/-- Only the bytes of a value that fits matter. -/
theorem congr (h : e.RecordsIf fits data result) (hfits : fits ↔ other) {data' : Bytes}
    (hdata : fits → data = data') : e.RecordsIf other data' result where
  recorded hother := by
    have hin := hfits.mpr hother
    rw [h.recorded hin, hdata hin]
  full hout := h.full fun hin => hout (hfits.mp hin)

/-- A push that records bytes does not agree with one that has no room for them. -/
theorem toOption_ne (h : e.RecordsIf fits data result) (h' : e.RecordsIf other data result')
    (hin : fits) (hout : ¬ other) (hsmall : data.length ≤ maxParamSize) :
    result.1.toOption ≠ result'.1.toOption := by
  obtain ⟨full, hfull⟩ := h'.full hout
  rw [h.recorded hin, hfull, recording_of_le hsmall]
  intro hresult
  cases hresult

/-- Two pushes that record the same bytes agree if and only if these fit for both or for neither of
them. -/
theorem agree_iff (h : e.RecordsIf fits data result) (h' : e.RecordsIf other data result')
    (hsmall : ¬ (fits ↔ other) → data.length ≤ maxParamSize) :
    result.1.toOption = result'.1.toOption ∧ result.2 = result'.2 ↔ (fits ↔ other) := by
  constructor
  · rintro ⟨hresult, -⟩
    refine Classical.byContradiction fun hdiffer => ?_
    by_cases hin : fits
    · exact h.toOption_ne h' hin (fun hother => hdiffer (iff_of_true hin hother)) (hsmall hdiffer)
        hresult
    · have hother : other := Classical.byContradiction fun hout => hdiffer (iff_of_false hin hout)
      exact h'.toOption_ne h hother hin (hsmall hdiffer) hresult.symm
  · intro hsame
    by_cases hin : fits
    · rw [h.recorded hin, h'.recorded (hsame.mp hin)]
      exact ⟨rfl, rfl⟩
    · obtain ⟨full, hfull⟩ := h.full hin
      obtain ⟨full', hfull'⟩ := h'.full fun hother => hin (hsame.mpr hother)
      rw [hfull, hfull']
      exact ⟨rfl, rfl⟩

end RecordsIf

namespace Reachable

variable {e : Encoder} {value : Value} {field : Field}

theorem room (h : Reachable e) : e.scratch.length ≤ e.scratch.capacity := by
  obtain ⟨start, parts, hstages⟩ := h.stages
  exact hstages.room

theorem head (h : Reachable e) : headSize e.event ≤ e.scratch.length := by
  obtain ⟨start, parts, hstages⟩ := h.stages
  exact hstages.head

/-- **A push is told by what is written for it.** The event is given up if there is no room for the
byte in front of the value, or none for the value behind it. Otherwise both are recorded. -/
theorem push_eq (h : Reachable e) (htarget : e.target? value = some field) {full : BufferFull}
    {data : Bytes} {tight : Prop} [Decidable tight]
    (hwrite : value.write e.settings e.memory (e.scratch.extend e.variant.toList) =
      if tight then (.error full, e.scratch.extend e.variant.toList)
      else (.ok (), (e.scratch.extend e.variant.toList).extend data)) :
    e.push value =
      if e.scratch.remaining < e.variant.toList.length then
        (.error (.bufferFull
          (e.scratch.full (e.scratch.length + e.variant.toList.length))), e.givenUp)
      else if tight then (.error (.bufferFull full), e.givenUp)
      else e.recording (e.variant.toList ++ data) := by
  have hparam := writeParam_eq h.room value
  by_cases hbyte : e.scratch.remaining < e.variant.toList.length
  · rw [if_pos hbyte] at hparam ⊢
    exact push_of_unwritten htarget hparam (Scratch.truncate_length _)
  · rw [if_neg hbyte, hwrite] at hparam
    rw [if_neg hbyte]
    by_cases htight : tight
    · rw [if_pos htight] at hparam ⊢
      exact push_of_unwritten htarget hparam (Scratch.truncate_extend _ _)
    · rw [if_neg htight, Scratch.extend_extend] at hparam
      rw [if_neg htight]
      refine push_of_written h.head htarget ?_ hparam
      -- what is written always fits
      rcases e.writeParam_cases h.room value with ⟨hfits, hwritten⟩ | ⟨_, _, hwritten, -⟩
      · have hsame := congrArg (fun result => result.2.length) (hparam.symm.trans hwritten)
        simp only [Scratch.length_extend] at hsame
        rw [hsame]
        exact hfits
      · rw [hparam] at hwritten
        cases hwritten

/-- **A push records its bytes if they fit**: the byte in front of the value, and the value. -/
theorem recordsIf (h : Reachable e) (htarget : e.target? value = some field) {full : BufferFull}
    {data : Bytes} {tight : Prop} [Decidable tight]
    (hwrite : value.write e.settings e.memory (e.scratch.extend e.variant.toList) =
      if tight then (.error full, e.scratch.extend e.variant.toList)
      else (.ok (), (e.scratch.extend e.variant.toList).extend data)) :
    e.RecordsIf (e.variant.toList.length ≤ e.scratch.remaining ∧ ¬ tight)
      (e.variant.toList ++ data) (e.push value) := by
  rw [h.push_eq htarget hwrite]
  constructor
  · rintro ⟨hbyte, hloose⟩
    rw [if_neg (Nat.not_lt.mpr hbyte), if_neg hloose]
  · intro hfull
    by_cases hbyte : e.scratch.remaining < e.variant.toList.length
    · rw [if_pos hbyte]
      exact ⟨_, rfl⟩
    · have htight : tight := Decidable.byContradiction fun hloose =>
        hfull ⟨Nat.le_of_not_lt hbyte, hloose⟩
      rw [if_neg hbyte, if_pos htight]
      exact ⟨_, rfl⟩

/-- Without a byte in front of it, only the value itself needs room. -/
theorem push_eq_of_none (h : Reachable e) (hvariant : e.variant = none)
    (htarget : e.target? value = some field) {full : BufferFull} {data : Bytes} {tight : Prop}
    [Decidable tight]
    (hwrite : value.write e.settings e.memory e.scratch =
      if tight then (.error full, e.scratch) else (.ok (), e.scratch.extend data)) :
    e.push value =
      if tight then (.error (.bufferFull full), e.givenUp) else e.recording data := by
  have hnone : e.variant.toList = [] := by
    rw [hvariant]
    rfl
  rw [← e.scratch.extend_nil, ← hnone] at hwrite
  rw [h.push_eq htarget hwrite, hnone]
  exact if_neg (Nat.not_lt_zero _)

/-- **Taking nothing leaves the buffer as it was.** The prefix of a missing value tells the length
of an empty one already. -/
theorem scratch_skipping (h : Reachable e) (htarget : e.target? value = some field) :
    (e.taking []).scratch = e.scratch := by
  obtain ⟨start, parts, hstages⟩ := h.stages
  obtain ⟨variant, aborted, hparts, -⟩ := hstages
  obtain ⟨-, hfield, -⟩ := target?_eq_some_iff.mp htarget
  have hindex : parts.length < start.event.schema.size := (List.getElem?_eq_some_iff.mp hfield).1
  rw [taking_holding hindex]
  show { start.scratch with bytes := staged start.event (parts ++ [[]]) } =
    { start.scratch with bytes := staged start.event parts }
  rw [staged, staged, padded_concat_nil hindex]

end Reachable

end Encoder

end SyscallTrace
