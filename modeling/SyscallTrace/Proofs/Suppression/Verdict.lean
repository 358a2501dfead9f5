import SyscallTrace.Proofs.Suppression.History

/-!
# Verdicts

A lineage record is judged by what it names, its parent and its command, and every other record by
its thread. So a thread that is suppressed hides its records from the consumers, but not all of
them: its end is always passed on, and so is a lineage record of its own that names neither a
suppressed parent nor a denylisted command (specification §4.7).

- `Engine.process_eq_dispatch`: the engine that looks at no record decides as if it did.
- `Engine.process_cases`: what a decoded record can lead to, and when.
- `Engine.verdict_of_suppressed_thread`: **which records of a suppressed thread are hidden**.
- `Engine.exec_of_suppressed_thread_passes`: they are not all of them.
-/

namespace SyscallTrace

namespace Record

/-- The record is long enough to name a command, and names a suppressed parent or a denylisted
command. -/
def NamesSuppressed (r : Record) (e : Engine) : Prop :=
  EventType.commandIndex < r.size ∧
    (e.isSuppressed r.namedParent = true ∨ e.isDenylisted r.namedCommand = true)

/-- The shortest record of an event: it has no parameters. -/
def bare (event : EventType) (tid : Tid) : Record :=
  ofParts { time := ⟨0⟩, tid, length := 26, tag := event.tag, count := 0 } event []

theorem isDecoded_of_describes {header : Header} {event : EventType} {parts : List Bytes}
    (h : Describes header event parts) : (ofParts header event parts).IsDecoded :=
  ⟨_, h.decode_layout []⟩

theorem isDecoded_bare (event : EventType) (tid : Tid) : (bare event tid).IsDecoded := by
  refine isDecoded_of_describes ⟨EventType.ofTag?_tag event, rfl, by decide, ?_, ?_, ?_⟩
  · rw [List.length_nil, Nat.zero_mul]
    rfl
  · exact fun part hpart => (nomatch hpart)
  · rw [List.zip_nil_right]
    exact fun p hp => (nomatch hp)

end Record

namespace Engine

/-! ## What a record leads to -/

/-- While nobody is suppressed and nothing denylisted, a record decides nothing. -/
theorem dispatch_of_idle {e : Engine} (htids : e.tids.isEmpty = true)
    (hcommands : e.commands.isEmpty = true) (record : Record) : e.dispatch record = (.pass, e) := by
  have hsuppressed := isSuppressed_of_isEmpty htids
  have hdenylisted := isDenylisted_of_isEmpty hcommands
  rw [dispatch]
  split
  · rw [processLineage]
    split
    · rfl
    · rw [hsuppressed, hdenylisted]
      rfl
  · split
    · -- nobody is there to be released
      have herase : e.tids.erase record.tid = e.tids := by
        rw [Std.ExtTreeSet.isEmpty_iff.mp htids]
        exact Std.ExtTreeSet.ext_mem fun tid => by simp
      rw [release, herase]
    · rw [hsuppressed]
      rfl

/-- The engine that looks at no record decides as if it did. -/
theorem process_eq_dispatch (e : Engine) (record : Record) :
    e.process record = e.dispatch record := by
  rw [process]
  split
  · rename_i hidle
    rw [Bool.and_eq_true] at hidle
    exact (dispatch_of_idle hidle.1 hidle.2 record).symm
  · rfl

/-- **What a decoded record leads to.** -/
theorem process_cases (e : Engine) {record : Record} (h : record.IsDecoded) :
    (record.event.isLineage = true ∧ record.NamesSuppressed e ∧
      e.process record = (.suppress, e.count.suppress record.tid)) ∨
    (record.event.isLineage = true ∧ ¬ record.NamesSuppressed e ∧ e.process record = (.pass, e)) ∨
    (record.event = .procexitEnter ∧ e.process record = (.pass, e.release record.tid)) ∨
    (record.event.isLineage = false ∧ record.event ≠ .procexitEnter ∧
      e.isSuppressed record.tid = true ∧ e.process record = (.suppress, e.count)) ∨
    (record.event.isLineage = false ∧ record.event ≠ .procexitEnter ∧
      e.isSuppressed record.tid = false ∧ e.process record = (.pass, e)) := by
  rw [process_eq_dispatch, dispatch]
  cases hlineage : record.event.isLineage with
  | true =>
    rw [if_pos rfl, processLineage_of_decoded h hlineage]
    by_cases hnames : record.NamesSuppressed e
    · exact .inl ⟨rfl, hnames, if_pos hnames⟩
    · exact .inr (.inl ⟨rfl, hnames, if_neg hnames⟩)
  | false =>
    rw [if_neg Bool.false_ne_true]
    by_cases hexit : record.event = .procexitEnter
    · exact .inr (.inr (.inl ⟨hexit, if_pos hexit⟩))
    · rw [if_neg hexit]
      cases hthread : e.isSuppressed record.tid with
      | true => exact .inr (.inr (.inr (.inl ⟨rfl, hexit, rfl, rfl⟩)))
      | false => exact .inr (.inr (.inr (.inr ⟨rfl, hexit, rfl, rfl⟩)))

/-! ## The kernel -/

theorem kernel_notMem_suppress {e : Engine} (h : Tid.kernel ∉ e.tids) (tid : Tid) :
    Tid.kernel ∉ (e.suppress tid).tids := by
  rw [mem_tids_suppress]
  rintro (⟨heq, htid⟩ | hmem)
  · exact htid heq.symm
  · exact h hmem

/-- No record adds the kernel to the suppressed threads. -/
theorem kernel_notMem_process {e : Engine} (h : Tid.kernel ∉ e.tids) {record : Record}
    (hdecoded : record.IsDecoded) : Tid.kernel ∉ (e.process record).2.tids := by
  obtain ⟨-, -, heq⟩ | ⟨-, -, heq⟩ | ⟨-, heq⟩ | ⟨-, -, -, heq⟩ | ⟨-, -, -, heq⟩ :=
    process_cases e hdecoded
  · rw [heq]
    exact kernel_notMem_suppress (e := e.count) h _
  · rw [heq]
    exact h
  · rw [heq]
    exact fun hmem => h (Std.ExtTreeSet.mem_of_mem_erase hmem)
  · rw [heq]
    exact h
  · rw [heq]
    exact h

/-- Two engines that suppress the same threads hold the same threads, as long as they do not hold
the kernel. -/
theorem tids_eq_of_isSuppressed {e e' : Engine} (h : Tid.kernel ∉ e.tids)
    (h' : Tid.kernel ∉ e'.tids)
    (hsame : ∀ tid, e.isSuppressed tid = true ↔ e'.isSuppressed tid = true) : e.tids = e'.tids := by
  refine Std.ExtTreeSet.ext_mem fun tid => ?_
  by_cases hkernel : tid = .kernel
  · rw [hkernel]
    exact ⟨fun hmem => absurd hmem h, fun hmem => absurd hmem h'⟩
  · have htid := hsame tid
    rw [isSuppressed_iff, isSuppressed_iff] at htid
    simpa only [ne_eq, hkernel, not_false_eq_true, true_and] using htid

/-! ## Records of a suppressed thread -/

/-- **Which records of a suppressed thread are hidden**: all but its end, and but the lineage
records that are too short to name a command, or name neither a suppressed parent nor a denylisted
command. -/
theorem verdict_of_suppressed_thread {e : Engine} {record : Record} (h : record.IsDecoded)
    (hthread : e.isSuppressed record.tid = true) :
    (e.process record).1 = .suppress ↔
      record.event ≠ .procexitEnter ∧ (record.event.isLineage = true → record.NamesSuppressed e) := by
  obtain ⟨hlineage, hnames, heq⟩ | ⟨hlineage, hnames, heq⟩ | ⟨hexit, heq⟩ |
      ⟨hlineage, hexit, -, heq⟩ | ⟨-, -, hfree, -⟩ := process_cases e h
  · have hexit : record.event ≠ .procexitEnter := by
      intro hexit
      rw [hexit] at hlineage
      cases hlineage
    rw [heq]
    exact ⟨fun _ => ⟨hexit, fun _ => hnames⟩, fun _ => rfl⟩
  · rw [heq]
    exact ⟨fun hpass => (nomatch hpass), fun hall => absurd (hall.2 hlineage) hnames⟩
  · rw [heq]
    exact ⟨fun hpass => (nomatch hpass), fun hall => absurd hexit hall.1⟩
  · rw [heq, hlineage]
    exact ⟨fun _ => ⟨hexit, fun hno => (nomatch hno)⟩, fun _ => rfl⟩
  · rw [hfree] at hthread
    cases hthread

/-- A thread that was suppressed connects somewhere. -/
theorem connect_of_suppressed_thread_hidden :
    let record := Record.bare .connectEnter ⟨4⟩
    record.IsDecoded ∧ (empty.suppress ⟨4⟩).isSuppressed record.tid = true ∧
      ((empty.suppress ⟨4⟩).process record).1 = .suppress := by
  intro record
  have hthread : (empty.suppress ⟨4⟩).isSuppressed record.tid = true :=
    isSuppressed_suppress.mpr (.inl ⟨rfl, by decide⟩)
  have hdecoded : record.IsDecoded := Record.isDecoded_bare .connectEnter ⟨4⟩
  refine ⟨hdecoded, hthread, (verdict_of_suppressed_thread hdecoded hthread).mpr ⟨?_, ?_⟩⟩
  · exact fun hexit => (nomatch hexit)
  · exact fun hlineage => (nomatch hlineage)

/-- It is not true that a suppressed thread hides all its records but its end and those too short:
when it runs another program, and neither its parent is suppressed nor the new command denylisted,
the record of that is passed on. -/
theorem exec_of_suppressed_thread_passes :
    ¬ ∀ (steps : List Step) (record : Record), (∀ s ∈ steps, s.IsDecoded) → record.IsDecoded →
      (empty.after steps).isSuppressed record.tid = true → record.event ≠ .procexitEnter →
      (record.event.isLineage = true → EventType.commandIndex < record.size) →
      ((empty.after steps).process record).1 = .suppress := by
  intro hall
  let header : Header := { time := ⟨1⟩, tid := ⟨4⟩, length := 65, tag := 293, count := 14 }
  let parts : List Bytes := [[], [], [], [], [], [1, 0, 0, 0, 0, 0, 0, 0], [], [], [], [], [], [],
    [], [108, 115, 0]]
  let record := Record.ofParts header .execveExit parts
  let steps : List Step := [.update (.suppress ⟨4⟩)]
  have hdescribes : Record.Describes header .execveExit parts := by
    refine ⟨rfl, rfl, by decide, rfl, by decide, ?_⟩
    simp only [ParamType.Fits]
    decide
  have hdecoded : record.IsDecoded := Record.isDecoded_of_describes hdescribes
  have hsteps : ∀ s ∈ steps, s.IsDecoded := by
    intro s hs
    cases List.mem_singleton.mp hs
    trivial
  have hthread : (empty.after steps).isSuppressed record.tid = true :=
    isSuppressed_suppress.mpr (.inl ⟨rfl, by decide⟩)
  have hpass : ((empty.after steps).process record).1 = .pass := by decide +kernel
  have hsuppress := hall steps record hsteps hdecoded hthread (by decide) (fun _ => by decide)
  rw [hpass] at hsuppress
  cases hsuppress

end Engine

end SyscallTrace
