import SyscallTrace.Proofs.Suppression.Comparison

/-!
# What one record changes

An engine looks at its records in two ways: while it holds nothing it passes them on unseen, and
otherwise each goes to the rule for its event. The first way is a shortcut that nobody can notice
(specification §4.7).

Whatever rule a record goes to, it changes little. It never edits the denylist, it adds or removes no
thread but its own, and it adds that one only by hiding a lineage record, and removes it only at its
end. None of this asks what the decoder has checked, so it is said of all records.

- `Engine.Changed`, `Engine.process_changed`: what a record may change.
- `Engine.process_own_thread`: **a record touches its own thread only**, and the shortcut cannot be
  noticed.
- `Engine.after_own_threads`: the same of any number of records.
-/

namespace SyscallTrace

namespace Engine

/-- What a record may change: it marks its thread for what it names, lets it go at its end, is counted
because its thread is suppressed, or changes nothing. -/
inductive Changed (e : Engine) (record : Record) : Verdict × Engine → Prop
  | marked (h : record.event.isLineage = true) :
      Changed e record (.suppress, e.count.suppress record.tid)
  | released (h : record.event = .procexitEnter) :
      Changed e record (.pass, e.release record.tid)
  | counted (h : record.event ≠ .procexitEnter) : Changed e record (.suppress, e.count)
  | passed (h : record.event ≠ .procexitEnter) : Changed e record (.pass, e)

/-- **What a record changes.** -/
theorem process_changed (e : Engine) (record : Record) : Changed e record (e.process record) := by
  rw [process_eq_dispatch, dispatch]
  by_cases hlineage : record.event.isLineage = true
  · have hexit : record.event ≠ .procexitEnter := by
      intro hexit
      rw [hexit] at hlineage
      cases hlineage
    rw [if_pos hlineage, processLineage]
    split
    · exact .passed hexit
    · split
      · exact .marked hlineage
      · exact .passed hexit
  · rw [if_neg hlineage]
    by_cases hexit : record.event = .procexitEnter
    · rw [if_pos hexit]
      exact .released hexit
    · rw [if_neg hexit]
      split
      · exact .counted hexit
      · exact .passed hexit

namespace Changed

variable {e : Engine} {record : Record} {result : Verdict × Engine} {tid : Tid}

theorem commands (h : Changed e record result) : result.2.commands = e.commands := by
  cases h with
  | marked _ => exact commands_suppress e.count record.tid
  | released _ | counted _ | passed _ => rfl

/-- No thread but that of the record is added or removed. -/
theorem mem_tids_of_ne (h : Changed e record result) (hother : tid ≠ record.tid) :
    tid ∈ result.2.tids ↔ tid ∈ e.tids := by
  cases h with
  | marked _ =>
    show tid ∈ (e.count.suppress record.tid).tids ↔ _
    rw [mem_tids_suppress]
    exact or_iff_right fun hsame => hother hsame.1
  | released _ =>
    show tid ∈ e.tids.erase record.tid ↔ _
    rw [Std.ExtTreeSet.mem_erase, ne_eq, Std.compare_eq_iff_eq]
    exact and_iff_right hother.symm
  | counted _ | passed _ => exact Iff.rfl

/-- A thread that is suppressed behind the record was so before, or its lineage record was hidden. -/
theorem of_isSuppressed (h : Changed e record result) (hafter : result.2.isSuppressed tid = true) :
    e.isSuppressed tid = true ∨
      (tid = record.tid ∧ record.event.isLineage = true ∧ result.1 = .suppress) := by
  cases h with
  | marked hlineage =>
    rcases isSuppressed_suppress.mp hafter with ⟨hsame, -⟩ | hbefore
    · exact .inr ⟨hsame, hlineage, rfl⟩
    · exact .inl hbefore
  | released _ => exact .inl (isSuppressed_release.mp hafter).2
  | counted _ | passed _ => exact .inl hafter

/-- A thread that was suppressed before the record is so behind it, or the record was its end. -/
theorem isSuppressed_or (h : Changed e record result) (hbefore : e.isSuppressed tid = true) :
    result.2.isSuppressed tid = true ∨ (tid = record.tid ∧ record.event = .procexitEnter) := by
  cases h with
  | marked _ => exact .inl (isSuppressed_suppress.mpr (.inr hbefore))
  | released hexit =>
    by_cases hsame : tid = record.tid
    · exact .inr ⟨hsame, hexit⟩
    · exact .inl (isSuppressed_release.mpr ⟨hsame, hbefore⟩)
  | counted _ | passed _ => exact .inl hbefore

/-- The end of a thread is passed on. -/
theorem pass_of_exit (h : Changed e record result) (hexit : record.event = .procexitEnter) :
    result.1 = .pass := by
  cases h with
  | marked hlineage =>
    rw [hexit] at hlineage
    cases hlineage
  | released _ => rfl
  | counted hother | passed hother => exact absurd hexit hother

end Changed

/-- **A record touches its own thread only.** An engine that never takes the shortcut gives the same
verdict and ends the same. No record changes the denylist or another thread. A thread becomes
suppressed only by a lineage record of its own that is hidden, and stops being so only by its end,
which is passed on. The count goes up by one for a record that is hidden, as long as it does not wrap,
and for no other. -/
theorem process_own_thread (e : Engine) (record : Record) :
    let verdict := (e.process record).1
    let next := (e.process record).2
    (verdict, next) = e.dispatch record ∧
      next.commands = e.commands ∧
      (∀ tid, tid ≠ record.tid → (tid ∈ next.tids ↔ tid ∈ e.tids)) ∧
      (∀ tid, e.isSuppressed tid = false → next.isSuppressed tid = true →
        tid = record.tid ∧ record.event.isLineage = true ∧ verdict = .suppress) ∧
      (∀ tid, e.isSuppressed tid = true → next.isSuppressed tid = false →
        tid = record.tid ∧ record.event = .procexitEnter) ∧
      (record.event = .procexitEnter → verdict = .pass) ∧
      (verdict = .pass → next.suppressed = e.suppressed) ∧
      (verdict = .suppress → e.suppressed.toNat + 1 < UInt64.size →
        next.suppressed.toNat = e.suppressed.toNat + 1) := by
  intro verdict next
  have hchanged : Changed e record (verdict, next) := e.process_changed record
  have hcount : next.suppressed = e.suppressed + UInt64.ofNat ([verdict].count .suppress) :=
    suppressed_process e record
  refine ⟨e.process_eq_dispatch record, hchanged.commands, fun tid => hchanged.mem_tids_of_ne, ?_,
    ?_, hchanged.pass_of_exit, ?_, ?_⟩
  · intro tid hbefore hafter
    -- a thread that was not suppressed can only have been marked
    refine (hchanged.of_isSuppressed hafter).resolve_left fun hsuppressed => ?_
    rw [hbefore] at hsuppressed
    cases hsuppressed
  · intro tid hbefore hafter
    -- and one that was can only have been released
    refine (hchanged.isSuppressed_or hbefore).resolve_left fun hsuppressed => ?_
    rw [hsuppressed] at hafter
    cases hafter
  · intro hpass
    rw [hcount, hpass]
    exact UInt64.add_zero _
  · intro hsuppress hlt
    rw [hcount, hsuppress, UInt64.toNat_add]
    exact Nat.mod_eq_of_lt hlt

/-- The clone of a suppressed thread is hidden and suppresses the new thread; the end of the old one
is passed on and lets it go. -/
theorem own_thread_of_clone_and_exit :
    let e := empty.suppress ⟨5⟩
    let exit := Record.bare .procexitEnter ⟨5⟩
    (e.process Record.shell) = e.dispatch Record.shell ∧
      e.isSuppressed ⟨9⟩ = false ∧ (e.process Record.shell).2.isSuppressed ⟨9⟩ = true ∧
      (e.process Record.shell).1 = .suppress ∧
      (e.process Record.shell).2.suppressed.toNat = 1 ∧
      e.isSuppressed ⟨5⟩ = true ∧ (e.process exit).2.isSuppressed ⟨5⟩ = false ∧
      (e.process exit).1 = .pass ∧ (e.process exit).2.suppressed = 0 := by
  intro e exit
  have hfree : e.isSuppressed ⟨9⟩ = false := by decide +kernel
  have hmarked : (e.process Record.shell).2.isSuppressed ⟨9⟩ = true := by decide +kernel
  have hheld : e.isSuppressed ⟨5⟩ = true := by decide +kernel
  have hgone : (e.process exit).2.isSuppressed ⟨5⟩ = false := by decide +kernel
  obtain ⟨hsame, -, -, hbecomes, -, -, -, hcount⟩ := process_own_thread e Record.shell
  obtain ⟨-, -, -, -, hstops, hpass, hkept, -⟩ := process_own_thread e exit
  obtain ⟨-, -, hsuppress⟩ := hbecomes ⟨9⟩ hfree hmarked
  have hexit := hpass (hstops ⟨5⟩ hheld hgone).2
  exact ⟨hsame, hfree, hmarked, hsuppress, hcount hsuppress (by decide), hheld, hgone, hexit,
    hkept hexit⟩

/-- **Records touch their own threads only.** Behind any number of them the denylist is what it was,
and so is every thread that none of them is of. -/
theorem after_own_threads (e : Engine) (records : List Record) :
    (e.after (records.map .process)).commands = e.commands ∧
      ∀ tid, (∀ record ∈ records, tid ≠ record.tid) →
        (tid ∈ (e.after (records.map .process)).tids ↔ tid ∈ e.tids) := by
  induction records generalizing e with
  | nil => exact ⟨rfl, fun _ _ => Iff.rfl⟩
  | cons record records ih =>
    have hchanged := e.process_changed record
    obtain ⟨hcommands, htids⟩ := ih (e.process record).2
    refine ⟨hcommands.trans hchanged.commands, fun tid hother => ?_⟩
    rw [List.forall_mem_cons] at hother
    exact (htids tid hother.2).trans (hchanged.mem_tids_of_ne hother.1)

end Engine

end SyscallTrace
