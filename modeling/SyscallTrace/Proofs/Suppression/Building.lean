import Mathlib.Data.List.Induction
import SyscallTrace.Proofs.Suppression.Descendants
import SyscallTrace.Proofs.Suppression.Verdict
import SyscallTrace.Suppression.Builder

/-!
# Histories of a builder

A builder sees two things at once: the threads that a scan finds, and the records that arrive
meanwhile. Both tell who started whom, and both can make a thread suppressed, but only records can
end a thread. The engine and the lineage are kept apart until the builder is finalized, so a history
is followed in each of them alone: the lineage only grows, whereas a thread in the engine is marked
and let go (specification §15.4).

- `SuppressionBuilder.Call`, `SuppressionBuilder.ofCalls`: histories, and what they lead to.
- `SuppressionBuilder.Call.Marks`, `SuppressionBuilder.Call.Ends`,
  `SuppressionBuilder.Call.Links`: the calls that make a thread suppressed, that end it, and that
  put it below another one.
- `SuppressionBuilder.isSuppressed_call_iff`, `SuppressionBuilder.isChild_call_iff`: what one call
  does to one thread and to one pair of threads.
- `SuppressionBuilder.isSuppressed_finalize_iff`: **the threads that are suppressed in the end** are
  those below a thread that the engine holds when the builder is finalized.
-/

namespace SyscallTrace

namespace SuppressionBuilder

/-- What can happen to a builder until it is finalized. -/
inductive Call where
  /-- A command is denylisted. -/
  | addCommand (command : String)
  /-- A thread is suppressed. -/
  | suppress (tid : Tid)
  /-- A thread is found by the scan. -/
  | observe (tid parent : Tid) (command : String)
  /-- A record arrives. -/
  | observeRecord (record : Record)
  deriving DecidableEq, Repr

/-- The builder behind a call. -/
def call (b : SuppressionBuilder) : Call → SuppressionBuilder
  | .addCommand command => b.addCommand command
  | .suppress tid => b.suppress tid
  | .observe tid parent command => (b.observe tid parent command).2
  | .observeRecord record => (b.observeRecord record).2

/-- The builder behind some calls, from one that has observed nothing. -/
def ofCalls (calls : List Call) : SuppressionBuilder := calls.foldl call {}

namespace Call

/-- A call that takes its record from the decoder. -/
def IsDecoded : Call → Prop
  | .observeRecord record => record.IsDecoded
  | _ => True

/-- The calls that add to the denylist. -/
def Denylists : Call → Prop
  | .addCommand _ => True
  | _ => False

/-- The calls that tell that one thread started another. A lineage record does so if it is long
enough to name a command. -/
def Links (parent child : Tid) : Call → Prop
  | .observe observed named _ => observed = child ∧ named = parent
  | .observeRecord record =>
    record.event.isLineage = true ∧ EventType.commandIndex < record.size ∧ record.tid = child ∧
      record.namedParent = parent
  | _ => False

/-- The calls that make a thread suppressed. A record hands the suppression of a parent down at
once, whereas a thread found by the scan is marked only by its command. -/
def Marks (e : Engine) (tid : Tid) : Call → Prop
  | .addCommand _ => False
  | .suppress marked => marked = tid
  | .observe observed _ command => observed = tid ∧ e.isDenylisted command = true
  | .observeRecord record => (Engine.Step.process record).Marks e tid

/-- The record of a thread's end. -/
def Ends (tid : Tid) : Call → Prop
  | .observeRecord record => record.event = .procexitEnter ∧ record.tid = tid
  | _ => False

/-- The calls that are about a thread, its end apart. -/
def Names (tid : Tid) : Call → Prop
  | .addCommand _ => False
  | .suppress named => named = tid
  | .observe named _ _ => named = tid
  | .observeRecord record => record.event.isLineage = true ∧ record.tid = tid

/-- A call that marks a thread is about it. -/
theorem Marks.names {e : Engine} {tid : Tid} {c : Call} (h : c.Marks e tid) : c.Names tid := by
  cases c with
  | addCommand command => exact h
  | suppress marked => exact h
  | observe observed parent command => exact h.1
  | observeRecord record => exact ⟨h.1, h.2.1⟩

end Call

/-- One thread was observed below another, and none of them is the kernel. -/
def Observed (calls : List Call) (parent child : Tid) : Prop :=
  parent ≠ .kernel ∧ child ≠ .kernel ∧ ∃ c ∈ calls, c.Links parent child

theorem Observed.mono {calls calls' : List Call} (h : ∀ c ∈ calls, c ∈ calls') {parent child : Tid}
    (hobserved : Observed calls parent child) : Observed calls' parent child := by
  obtain ⟨hparent, hchild, c, hc, hlinks⟩ := hobserved
  exact ⟨hparent, hchild, c, h c hc, hlinks⟩

/-! ## One call -/

/-- The scan suppresses a thread only for its command, and notes its parent anyway. -/
theorem call_observe (b : SuppressionBuilder) (tid parent : Tid) (command : String) :
    b.call (.observe tid parent command) =
      { engine := if b.engine.isDenylisted command = true then b.engine.suppress tid else b.engine
        tree := b.tree.insert tid parent command } := by
  rw [call, observe]
  dsimp only
  split <;> rfl

/-- What one call does to the denylist. -/
theorem isDenylisted_call_iff {b : SuppressionBuilder} {c : Call} {command : String} :
    (b.call c).engine.isDenylisted command = true ↔
      c = .addCommand command ∨ b.engine.isDenylisted command = true := by
  cases c with
  | addCommand added =>
    show (b.engine.addCommand added).isDenylisted command = true ↔ _
    rw [Engine.isDenylisted_addCommand, Call.addCommand.injEq]
  | suppress tid =>
    show (b.engine.suppress tid).isDenylisted command = true ↔ _
    simp
  | observe tid parent denied =>
    rw [call_observe]
    dsimp only
    split <;> simp
  | observeRecord record =>
    show (b.engine.process record).2.isDenylisted command = true ↔ _
    simp

/-- **What one call does to one thread.** The engine holds it behind the call if the call marks it,
or if it held it before and the call does not end it. -/
theorem isSuppressed_call_iff {b : SuppressionBuilder} {c : Call} (h : c.IsDecoded) {tid : Tid} :
    (b.call c).engine.isSuppressed tid = true ↔
      (tid ≠ .kernel ∧ c.Marks b.engine tid) ∨
        (b.engine.isSuppressed tid = true ∧ ¬ c.Ends tid) := by
  cases c with
  | addCommand command =>
    have hsame : (b.call (.addCommand command)).engine.isSuppressed tid =
        b.engine.isSuppressed tid := rfl
    simp [hsame, Call.Marks, Call.Ends]
  | suppress marked =>
    show (b.engine.suppress marked).isSuppressed tid = true ↔ _
    rw [Engine.isSuppressed_suppress]
    simp only [Call.Marks, Call.Ends]
    grind
  | observe observed parent command =>
    rw [call_observe]
    dsimp only
    by_cases hcommand : b.engine.isDenylisted command = true
    · rw [if_pos hcommand, Engine.isSuppressed_suppress]
      simp only [Call.Marks, Call.Ends, hcommand]
      grind
    · rw [if_neg hcommand]
      simp [Call.Marks, Call.Ends, hcommand]
  | observeRecord record => exact Engine.isSuppressed_process_iff h

/-- What a record does to the lineage. A thread that is said to have started itself is not noted. -/
theorem isChild_recordLineage_iff {tree : LineageTree} {record : Record} (h : record.IsDecoded)
    {parent child : Tid} :
    (recordLineage tree record).IsChild parent child ↔
      tree.IsChild parent child ∨
        (parent ≠ .kernel ∧ child ≠ .kernel ∧ (Call.observeRecord record).Links parent child ∧
          parent ≠ child) := by
  rw [recordLineage, Call.Links]
  by_cases hlineage : record.event.isLineage = true
  · rw [if_pos hlineage]
    by_cases hsize : EventType.commandIndex < record.size
    · rw [Ancestry.ofRecord?_of_decoded h hlineage hsize]
      dsimp only
      rw [LineageTree.isChild_insert_iff]
      grind
    · rw [Ancestry.ofRecord?_of_size_le (Nat.le_of_not_lt hsize)]
      grind
  · rw [if_neg hlineage]
    grind

/-- **What one call tells of two threads.** One is the child of the other behind the call if it was
so before, or if the call tells it and they are different threads. -/
theorem isChild_call_iff {b : SuppressionBuilder} {c : Call} (h : c.IsDecoded)
    {parent child : Tid} :
    (b.call c).tree.IsChild parent child ↔
      b.tree.IsChild parent child ∨
        (parent ≠ .kernel ∧ child ≠ .kernel ∧ c.Links parent child ∧ parent ≠ child) := by
  cases c with
  | addCommand command =>
    show b.tree.IsChild parent child ↔ _
    simp [Call.Links]
  | suppress marked =>
    show b.tree.IsChild parent child ↔ _
    simp [Call.Links]
  | observe observed named command =>
    rw [call_observe, LineageTree.isChild_insert_iff, Call.Links]
    grind
  | observeRecord record => exact isChild_recordLineage_iff h

/-! ## Histories -/

theorem ofCalls_concat (calls : List Call) (c : Call) :
    ofCalls (calls ++ [c]) = (ofCalls calls).call c := by
  rw [ofCalls, List.foldl_append]
  rfl

/-- A configured builder is one that was told its denylist first, and its threads then. -/
theorem foldl_call_ofConfig (config : SuppressionConfig) (calls : List Call) :
    calls.foldl call (ofConfig config) =
      ofCalls (config.commands.map .addCommand ++ (config.tids.map .suppress ++ calls)) := by
  rw [ofCalls, List.foldl_append, List.foldl_append, List.foldl_map, List.foldl_map]
  rfl

theorem forall_mem_concat {p : Call → Prop} {calls : List Call} {c : Call} :
    (∀ c' ∈ calls ++ [c], p c') ↔ (∀ c' ∈ calls, p c') ∧ p c := by
  rw [List.forall_mem_append, List.forall_mem_singleton]

/-- The denylist holds every command that was added. A builder cannot clear it. -/
theorem isDenylisted_ofCalls_iff {calls : List Call} {command : String} :
    (ofCalls calls).engine.isDenylisted command = true ↔ .addCommand command ∈ calls := by
  induction calls using List.reverseRecOn with
  | nil =>
    have hnone := Engine.isDenylisted_of_isEmpty (e := .empty) Std.ExtTreeSet.isEmpty_empty command
    exact ⟨fun h => absurd (hnone.symm.trans h) Bool.false_ne_true, fun h => (nomatch h)⟩
  | append_singleton calls c ih =>
    rw [ofCalls_concat, isDenylisted_call_iff, ih, List.mem_append, List.mem_singleton, or_comm,
      eq_comm]

/-- The lineage holds what was observed, but for threads that are said to have started
themselves. -/
theorem isChild_ofCalls_iff {calls : List Call} (h : ∀ c ∈ calls, c.IsDecoded)
    {parent child : Tid} :
    (ofCalls calls).tree.IsChild parent child ↔ Observed calls parent child ∧ parent ≠ child := by
  induction calls using List.reverseRecOn with
  | nil =>
    exact ⟨fun h => absurd h (LineageTree.not_isChild_empty parent child),
      fun ⟨⟨_, _, c, hc, _⟩, _⟩ => (nomatch hc)⟩
  | append_singleton calls c ih =>
    rw [forall_mem_concat] at h
    rw [ofCalls_concat, isChild_call_iff h.2, ih h.1]
    simp only [Observed, List.mem_append, List.mem_singleton]
    grind

/-- **The threads that the engine holds** behind some calls: those that a call marked and no later
call ended. -/
theorem isSuppressed_ofCalls_iff {calls : List Call} (h : ∀ c ∈ calls, c.IsDecoded) {tid : Tid} :
    (ofCalls calls).engine.isSuppressed tid = true ↔
      tid ≠ .kernel ∧ ∃ before mark later, calls = before ++ mark :: later ∧
        mark.Marks (ofCalls before).engine tid ∧ ∀ c ∈ later, ¬ c.Ends tid := by
  have hnone := Engine.isSuppressed_of_isEmpty (e := .empty) Std.ExtTreeSet.isEmpty_empty tid
  have hlasts := lasts_iff (fun b : SuppressionBuilder => b.engine.isSuppressed tid = true)
    (fun b c => tid ≠ .kernel ∧ c.Marks b.engine tid) (fun c => c.Ends tid) calls
    (fun c hc b => isSuppressed_call_iff (h c hc)) {}
  rw [ofCalls, hlasts]
  -- a builder that has observed nothing holds nobody
  constructor
  · rintro (⟨before, mark, later, heq, ⟨hkernel, hmarks⟩, hlater⟩ | ⟨hbefore, -⟩)
    · exact ⟨hkernel, before, mark, later, heq, hmarks, hlater⟩
    · exact absurd (hnone.symm.trans hbefore) Bool.false_ne_true
  · rintro ⟨hkernel, before, mark, later, heq, hmarks, hlater⟩
    exact .inl ⟨before, mark, later, heq, ⟨hkernel, hmarks⟩, hlater⟩

/-- No call makes the engine hold the kernel. -/
theorem kernel_notMem_ofCalls {calls : List Call} (h : ∀ c ∈ calls, c.IsDecoded) :
    Tid.kernel ∉ (ofCalls calls).engine.tids := by
  induction calls using List.reverseRecOn with
  | nil => exact Std.ExtTreeSet.not_mem_empty
  | append_singleton calls c ih =>
    rw [forall_mem_concat] at h
    rw [ofCalls_concat]
    cases c with
    | addCommand command => exact ih h.1
    | suppress tid => exact Engine.kernel_notMem_suppress (ih h.1) tid
    | observe tid parent command =>
      rw [call_observe]
      dsimp only
      split
      · exact Engine.kernel_notMem_suppress (ih h.1) tid
      · exact ih h.1
    | observeRecord record => exact Engine.kernel_notMem_process (ih h.1) h.2

/-! ## The end of the build phase -/

/-- Suppressing some threads leaves out the kernel, and keeps those that were suppressed before. -/
theorem isSuppressed_foldl_suppress {tids : List Tid} {e : Engine} {tid : Tid} :
    (tids.foldl Engine.suppress e).isSuppressed tid = true ↔
      (tid ∈ tids ∧ tid ≠ .kernel) ∨ e.isSuppressed tid = true := by
  induction tids generalizing e with
  | nil => simp
  | cons first rest ih =>
    rw [List.foldl_cons, ih, Engine.isSuppressed_suppress, List.mem_cons]
    grind

theorem kernel_notMem_foldl_suppress {tids : List Tid} {e : Engine} (h : Tid.kernel ∉ e.tids) :
    Tid.kernel ∉ (tids.foldl Engine.suppress e).tids := by
  induction tids generalizing e with
  | nil => exact h
  | cons first rest ih => exact ih (Engine.kernel_notMem_suppress h first)

theorem kernel_notMem_finalize {calls : List Call} (h : ∀ c ∈ calls, c.IsDecoded) :
    Tid.kernel ∉ (ofCalls calls).finalize.tids :=
  kernel_notMem_foldl_suppress (kernel_notMem_ofCalls h)

/-- A path in the lineage is a path of observations, and a thread that is said to have started
itself adds nothing to it. -/
theorem path_ofCalls_iff {calls : List Call} (h : ∀ c ∈ calls, c.IsDecoded) {root tid : Tid} :
    Relation.ReflTransGen (ofCalls calls).tree.IsChild root tid ↔
      Relation.ReflTransGen (Observed calls) root tid := by
  constructor
  · intro hpath
    induction hpath with
    | refl => exact .refl
    | tail _ hchild ih => exact ih.tail ((isChild_ofCalls_iff h).mp hchild).1
  · intro hpath
    induction hpath with
    | refl => exact .refl
    | @tail parent child _ hobserved ih =>
      -- a thread that started itself is no child of its own, but the path had reached it already
      by_cases hself : parent = child
      · exact hself ▸ ih
      · exact ih.tail ((isChild_ofCalls_iff h).mpr ⟨hobserved, hself⟩)

/-- **The threads that are suppressed in the end** are those that the engine holds when the builder
is finalized, and those that were observed below one of them. -/
theorem isSuppressed_finalize_iff {calls : List Call} (h : ∀ c ∈ calls, c.IsDecoded) {tid : Tid} :
    (ofCalls calls).finalize.isSuppressed tid = true ↔
      ∃ root, (ofCalls calls).engine.isSuppressed root = true ∧
        Relation.ReflTransGen (Observed calls) root tid := by
  rw [finalize, isSuppressed_foldl_suppress, Std.ExtTreeSet.mem_toList,
    LineageTree.mem_descendants_iff]
  constructor
  · rintro (⟨⟨root, hroot, hpath⟩, -⟩ | htid)
    · -- a root with a child is not the kernel
      have hkernel : root ≠ .kernel := by
        obtain ⟨child, hchild, -⟩ := Relation.TransGen.head'_iff.mp hpath
        exact ((isChild_ofCalls_iff h).mp hchild).1.1
      rw [Std.ExtTreeSet.mem_toList] at hroot
      exact ⟨root, Engine.isSuppressed_iff.mpr ⟨hkernel, hroot⟩,
        (path_ofCalls_iff h).mp hpath.to_reflTransGen⟩
    · exact ⟨tid, htid, .refl⟩
  · rintro ⟨root, hroot, hpath⟩
    rcases Relation.reflTransGen_iff_eq_or_transGen.mp ((path_ofCalls_iff h).mpr hpath) with
      rfl | hpath
    · exact .inr hroot
    · refine .inl ⟨⟨root, ?_, hpath⟩, ?_⟩
      · exact Std.ExtTreeSet.mem_toList.mpr (Engine.isSuppressed_iff.mp hroot).2
      · obtain ⟨parent, -, hchild⟩ := Relation.TransGen.tail'_iff.mp hpath
        exact ((isChild_ofCalls_iff h).mp hchild).1.2.1

end SuppressionBuilder

end SyscallTrace
