import SyscallTrace.Proofs.Capture.Run

/-!
# Truncated events

A buffer may be full at any byte, values may be refused, and a producer may simply stop. The event
that is emitted then is a record like every other: it has the values that were taken, and its other
parameters are empty. So the three ways to end an event agree on its bytes, and differ only in what
they do with an event that is not complete (specification §7, §15.1).

- `Encoder.isTruncated_holding`: an event is truncated if and only if values are missing.
- `Encoder.finish_eq_ok_iff`: when an event is complete.
- `Encoder.finish_holding`, `Encoder.finishWith_holding`: the ways to end an event.
- `Encoder.truncated_record`: **truncated events are records**, whatever the pushes gave.
-/

namespace SyscallTrace

namespace Encoder

variable {start : Encoder} {parts : List Bytes} {variant : Option UInt8} {aborted : Bool}

/-- An event that was given up is not complete, so only the number of values counts. -/
theorem isTruncated_holding
    (hmissing : aborted = true → parts.length < start.event.schema.size) :
    (start.holding parts variant aborted).isTruncated =
      decide (parts.length < start.event.schema.size) := by
  rw [isTruncated]
  show (aborted || decide (parts.length < start.event.schema.size)) = _
  cases aborted with
  | false => rfl
  | true => exact (decide_eq_true (hmissing rfl)).symm

/-- An event that has to be complete is given away if it was not given up and has all values. -/
theorem finish_eq_ok_iff {e : Encoder} {bytes : Bytes} :
    e.finish.1 = .ok bytes ↔
      e.aborted = false ∧ e.pushed = e.expected ∧ e.sealBytes.1 = .ok bytes := by
  rw [finish]
  by_cases haborted : e.aborted = true
  · simp [haborted]
  · by_cases hall : e.pushed = e.expected
    · simp [haborted, hall]
    · simp [haborted, hall]

/-- Ending an event that has to be complete fails if values are missing. -/
theorem finish_holding (hparts : start.CanHold parts)
    (hmissing : aborted = true → parts.length < start.event.schema.size) {bytes : Bytes}
    (hbytes : (start.holding parts variant aborted).sealBytes.1 = .ok bytes) :
    if parts.length < start.event.schema.size then
      ∃ error, (start.holding parts variant aborted).finish.1 = .error error
    else (start.holding parts variant aborted).finish.1 = .ok bytes := by
  by_cases hless : parts.length < start.event.schema.size
  · rw [if_pos hless]
    cases hended : (start.holding parts variant aborted).finish.1 with
    | error error => exact ⟨error, rfl⟩
    | ok bytes =>
      obtain ⟨-, hall, -⟩ := finish_eq_ok_iff.mp hended
      exact absurd hall (Nat.ne_of_lt hless)
  · rw [if_neg hless]
    have haborted : aborted = false := Bool.eq_false_iff.mpr fun h => hless (hmissing h)
    have hall : parts.length = start.event.schema.size :=
      Nat.le_antisymm hparts.count_le (Nat.le_of_not_lt hless)
    exact finish_eq_ok_iff.mpr ⟨haborted, hall, hbytes⟩

/-- Ending an event that need not be complete never fails. It is dropped, or else emitted and
marked, if values are missing. -/
theorem finishWith_holding
    (hmissing : aborted = true → parts.length < start.event.schema.size) {bytes : Bytes}
    (hbytes : (start.holding parts variant aborted).sealBytes.1 = .ok bytes) :
    ((start.holding parts variant aborted).finishWith .emitPartial).1 =
        .ok (some { bytes, truncated := decide (parts.length < start.event.schema.size) }) ∧
      ((start.holding parts variant aborted).finishWith .drop).1 =
        .ok (if parts.length < start.event.schema.size then none
          else some { bytes, truncated := false }) := by
  rw [finishWith, finishWith, isTruncated_holding hmissing]
  generalize (start.holding parts variant aborted).sealBytes = sealed at hbytes ⊢
  obtain ⟨result, scratch⟩ := sealed
  cases hbytes
  by_cases hless : parts.length < start.event.schema.size
  · rw [decide_eq_true hless, if_pos hless]
    exact ⟨rfl, rfl⟩
  · rw [decide_eq_false hless, if_neg hless]
    exact ⟨rfl, rfl⟩

/-- **Truncated events are records.** Whatever the pushes of a run gave, the event is emitted as a
record that fits the buffer: its first parameters are what the successful pushes wrote, in their
order, and the others are empty. The three ways to end an event agree on its bytes. -/
theorem truncated_record {scratch : Scratch} {settings : CaptureSettings} {memory : Memory}
    {event : EventType} {time : Timestamp} {tid : Tid} {e : Encoder}
    (h : begin scratch settings memory event time tid = .ok e) {pushes : List Push}
    (hvariants : e.VariantsFit pushes) :
    let last := (e.run pushes).2
    ∃ bytes r,
      (last.finishWith .emitPartial).1 =
          .ok (some { bytes, truncated := decide (last.pushed < event.schema.size) }) ∧
        bytes.length ≤ scratch.capacity ∧
        Record.decode bytes = .ok r ∧
        r.header.length.toNat = bytes.length ∧
        r.header.count.toNat = event.schema.size ∧
        r.time = time ∧ r.tid = tid ∧ r.event = event ∧
        r.size = event.schema.size ∧
        (∀ i field, event.schema.fields[i]? = some field →
          r.param i = .ok { type := field.type, data := (e.written pushes)[i]?.getD [] }) ∧
        (e.written pushes).length = last.pushed ∧
        (e.run pushes).1.filterMap Except.toOption = (e.written pushes).map List.length ∧
        (last.finishWith .drop).1 =
          .ok (if last.pushed < event.schema.size then none
            else some { bytes, truncated := false }) ∧
        (if last.pushed < event.schema.size then ∃ error, last.finish.1 = .error error
        else last.finish.1 = .ok bytes) := by
  intro last
  have hresults := toOption_run (holds_begin h) hvariants
  have hheld : Holds _ (e.written pushes) last := holds_run (holds_begin h) hvariants
  -- from here on only the values count, not the pushes that led to them
  generalize e.written pushes = parts at hresults hheld ⊢
  generalize last = last at hheld ⊢
  obtain ⟨variant, aborted, hparts, hmissing⟩ := hheld
  obtain ⟨bytes, r, hbytes, hfits, hdecode, hlength, hcount, htime, htid, hevent, hsize, hparam⟩ :=
    hparts.exists_record variant aborted
  obtain ⟨hpartial, hdrop⟩ := finishWith_holding hmissing hbytes
  exact ⟨bytes, r, hpartial, hfits, hdecode, hlength, hcount, htime, htid, hevent, hsize, hparam,
    rfl, hresults, hdrop, finish_holding hparts hmissing hbytes⟩

/-- A value that is refused, two that are taken, and one for which the byte in front of it takes the
last byte of the buffer, so that the event is given up. -/
theorem truncated_ptrace :
    let pushes : List Push :=
      [⟨.u8 1, none⟩, ⟨.i64 (-3), none⟩, ⟨.u32 7, some 2⟩, ⟨.u64 9, some 1⟩, ⟨.u16 4, none⟩]
    ∃ e bytes r,
      begin { capacity := 50 } {} Memory.none .ptraceExit ⟨1⟩ ⟨7⟩ = .ok e ∧
        e.VariantsFit pushes ∧
        e.written pushes = [[0xFD, 0xFF, 0xFF, 0xFF, 0xFF, 0xFF, 0xFF, 0xFF], [2, 7, 0, 0, 0]] ∧
        ((e.run pushes).2.finishWith .emitPartial).1 = .ok (some { bytes, truncated := true }) ∧
        bytes.length ≤ 50 ∧ Record.decode bytes = .ok r ∧ r.size = 5 ∧
        r.param 1 = .ok { type := .dyn, data := [2, 7, 0, 0, 0] } ∧
        r.param 2 = .ok { type := .dyn, data := [] } ∧
        ((e.run pushes).2.finishWith .drop).1 = .ok none := by
  intro pushes
  let e : Encoder :=
    { scratch := { bytes := List.replicate 36 0, capacity := 50 }
      settings := {}
      memory := Memory.none
      event := .ptraceExit
      time := ⟨1⟩
      tid := ⟨7⟩ }
  have h : begin { capacity := 50 } {} Memory.none .ptraceExit ⟨1⟩ ⟨7⟩ = .ok e := rfl
  have hvariants : e.VariantsFit pushes := by decide +kernel
  have hwritten : e.written pushes =
      [[0xFD, 0xFF, 0xFF, 0xFF, 0xFF, 0xFF, 0xFF, 0xFF], [2, 7, 0, 0, 0]] := by decide +kernel
  obtain ⟨bytes, r, hpartial, hfits, hdecode, -, -, -, -, -, hsize, hparam, hcount, -, hdrop, -⟩ :=
    truncated_record h hvariants
  rw [hwritten] at hparam hcount
  rw [← hcount] at hpartial hdrop
  exact ⟨e, bytes, r, h, hvariants, hwritten, hpartial, hfits, hdecode, hsize,
    hparam 1 ⟨"addr", .dyn⟩ rfl, hparam 2 ⟨"data", .dyn⟩ rfl, hdrop⟩

end Encoder

end SyscallTrace
