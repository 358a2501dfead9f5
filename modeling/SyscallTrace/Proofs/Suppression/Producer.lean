import SyscallTrace.Proofs.Capture.Finished
import SyscallTrace.Proofs.Suppression.Verdict

/-!
# Verdicts on encoded events

A producer that starts a lineage event, gives a value for each of its parameters and ends it does
not know of the engine. Still the engine decides on what the producer meant: on the parent that it
gave as a number, whatever its sign, and on the command that it gave as bytes, up to their first NUL
and to the size that a parameter may have (specification §4.7, §15.1).

- `Engine.lineage_verdict`: what decides on a lineage record, and what follows.
- `Engine.verdict_on_encoded`: **the engine decides on what the producer wrote**.
-/

namespace SyscallTrace

namespace Engine

/-! ## What decides on a lineage record -/

/-- A lineage record that is long enough is decided on by its parent and its command. If it is
suppressed, so is its thread, unless that is the kernel; if it passes, nothing has changed. -/
theorem lineage_verdict (e : Engine) {record : Record} (h : record.IsDecoded)
    (hlineage : record.event.isLineage = true) (hsize : EventType.commandIndex < record.size) :
    ((e.process record).1 = .suppress ↔
        e.isSuppressed record.namedParent = true ∨ e.isDenylisted record.namedCommand = true) ∧
      ((e.process record).1 = .suppress → record.tid ≠ .kernel →
        (e.process record).2.isSuppressed record.tid = true) ∧
      ((e.process record).1 = .pass → (e.process record).2 = e) := by
  obtain ⟨-, hnames, heq⟩ | ⟨-, hnames, heq⟩ | ⟨hexit, -⟩ | ⟨hother, -⟩ | ⟨hother, -⟩ :=
    process_cases e h
  · rw [heq]
    refine ⟨⟨fun _ => hnames.2, fun _ => rfl⟩, ?_, fun hpass => (nomatch hpass)⟩
    intro _ htid
    exact isSuppressed_suppress.mpr (.inl ⟨rfl, htid⟩)
  · rw [heq]
    refine ⟨⟨fun hsuppress => (nomatch hsuppress), ?_⟩, fun hsuppress => (nomatch hsuppress),
      fun _ => rfl⟩
    intro hnamed
    exact absurd ⟨hsize, hnamed⟩ hnames
  · rw [hexit] at hlineage
    cases hlineage
  · rw [hother] at hlineage
    cases hlineage
  · rw [hother] at hlineage
    cases hlineage

/-! ## What the producer wrote -/

/-- **The engine decides on what the producer wrote.** A lineage event whose values are all taken,
among them a number for its parent and bytes for its command, can be ended as soon as each parameter
has a value, and what is given away then decodes. It is suppressed if and only if the thread with
that number is suppressed, or the text of the bytes is denylisted, up to their first NUL and no more
than 64999 of them. If it is suppressed, so is its thread, unless that is the kernel; if it passes,
the engine is as before. -/
theorem verdict_on_encoded {scratch : Scratch} {settings : CaptureSettings} {memory : Memory}
    {event : EventType} {time : Timestamp} {tid : Tid} {encoder : Encoder}
    (h : Encoder.begin scratch settings memory event time tid = .ok encoder)
    (hlineage : event.isLineage = true) {values : List Value} {parent : Int64} {command : Bytes}
    (hparent : values[EventType.parentIndex]? = some (.i64 parent))
    (hcommand : values[EventType.commandIndex]? = some (.ofText command)) {lengths : List Nat}
    (hpushes : (encoder.run (Push.plain values)).1 = lengths.map .ok) (e : Engine) :
    let finished := (encoder.run (Push.plain values)).2.finish.1
    let text := Utf8.lossyText ((Bytes.beforeNul command).take 64999)
    (values.length = event.schema.size → ∃ bytes, finished = .ok bytes) ∧
      ∀ bytes, finished = .ok bytes → ∃ record, Record.decode bytes = .ok record ∧
        ((e.process record).1 = .suppress ↔
          e.isSuppressed ⟨parent.toUInt64⟩ = true ∨ e.isDenylisted text = true) ∧
        ((e.process record).1 = .suppress → tid ≠ .kernel →
          (e.process record).2.isSuppressed tid = true) ∧
        ((e.process record).1 = .pass → (e.process record).2 = e) := by
  intro finished text
  refine ⟨Encoder.exists_finished h hpushes, ?_⟩
  intro bytes hfinished
  obtain ⟨record, hdecode, rfl, rfl, hsize, hparam⟩ :=
    Encoder.param_of_finished h hpushes hfinished
  have hlong : EventType.commandIndex < record.size := by
    have hfield := EventType.command_of_isLineage hlineage
    rw [hsize]
    exact (List.getElem?_eq_some_iff.mp hfield).1
  -- the parent is read back as the number that was given
  have hnamedParent : record.namedParent = ⟨parent.toUInt64⟩ := by
    obtain ⟨room, hread⟩ := hparam _ _ _ hparent (EventType.parent_of_isLineage hlineage)
    have hvalue := (Value.readsBack_content (.i64 parent) .pid settings memory room).signed rfl
      parent rfl
    have hsigned : record.param EventType.parentIndex >>= Param.signed? = .ok (some parent) := by
      rw [hread]
      exact hvalue
    rw [Record.namedParent, hsigned]
  -- the command ends where the text of the producer ends
  have hnamedCommand : record.namedCommand = text := by
    obtain ⟨room, hread⟩ := hparam _ _ _ hcommand (EventType.command_of_isLineage hlineage)
    rw [Record.namedCommand, hread]
    dsimp only
    rw [Value.beforeNul_content_ofText]
    rfl
  obtain ⟨hverdict, hsuppress, hpass⟩ := e.lineage_verdict ⟨bytes, hdecode⟩ hlineage hlong
  rw [hnamedParent, hnamedCommand] at hverdict
  exact ⟨record, hdecode, hverdict, hsuppress, hpass⟩

/-- A thread whose parent has a negative number and is suppressed. Its command is no text, and goes
on behind a NUL. -/
theorem verdict_on_negative_parent :
    let absent : List Value := [.empty, .empty, .empty, .empty]
    let values : List Value := [.i64 0] ++ absent ++ [.i64 (-7)] ++ absent ++
      [.empty, .u32 3, .u32 4, .ofText [115, 104, 0xFF, 0, 115]] ++ absent ++
      [.empty, .empty, .empty]
    let sizes := [8, 0, 0, 0, 0, 8, 0, 0, 0, 0, 0, 4, 4, 4, 0, 0, 0, 0, 0, 0, 0]
    let e := Engine.empty.suppress ⟨(-7 : Int64).toUInt64⟩
    ∃ encoder bytes record,
      Encoder.begin {} {} Memory.none .cloneExit ⟨1⟩ ⟨9⟩ = .ok encoder ∧
        (encoder.run (Push.plain values)).1 = sizes.map .ok ∧
        (encoder.run (Push.plain values)).2.finish.1 = .ok bytes ∧
        Record.decode bytes = .ok record ∧
        (e.process record).1 = .suppress ∧ (e.process record).2.isSuppressed ⟨9⟩ = true := by
  intro absent values sizes e
  let encoder : Encoder :=
    { scratch := { bytes := List.replicate 68 0 }
      settings := {}
      memory := Memory.none
      event := .cloneExit
      time := ⟨1⟩
      tid := ⟨9⟩ }
  have h : Encoder.begin {} {} Memory.none .cloneExit ⟨1⟩ ⟨9⟩ = .ok encoder := rfl
  have hpushes : (encoder.run (Push.plain values)).1 = sizes.map .ok := by decide +kernel
  have hparent : values[EventType.parentIndex]? = some (.i64 (-7)) := rfl
  have hcommand : values[EventType.commandIndex]? = some (.ofText [115, 104, 0xFF, 0, 115]) := rfl
  obtain ⟨hended, hdecided⟩ := verdict_on_encoded h rfl hparent hcommand hpushes e
  obtain ⟨bytes, hfinished⟩ := hended rfl
  obtain ⟨record, hdecode, hverdict, hsuppress, -⟩ := hdecided bytes hfinished
  have hheld : e.isSuppressed ⟨(-7 : Int64).toUInt64⟩ = true :=
    isSuppressed_suppress.mpr (.inl ⟨rfl, by decide⟩)
  have hhidden := hverdict.mpr (.inl hheld)
  exact ⟨encoder, bytes, record, h, hpushes, hfinished, hdecode, hhidden,
    hsuppress hhidden (by decide)⟩

end Engine

end SyscallTrace
