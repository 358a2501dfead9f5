import Mathlib.Data.List.Induction
import SyscallTrace.Proofs.Suppression.Descendants
import SyscallTrace.Suppression.Scan

/-!
# What a lineage holds

A lineage is built from observations, each of a thread with its parent and its command. They may
come in any order, repeat each other and contradict each other. The lineage holds a thread if one of
them tells of it, and an edge if one of them puts a thread below another one. So the kernel is
nowhere in it, and no thread is below itself directly, although it may be so along a cycle
(specification §3, §15.4).

- `ScannedThread.Tells`, `ScannedThread.Links`: what one observation says.
- `LineageTree.contains_insert_iff`, `LineageTree.nodup_children_insert`: what one observation does
  to the threads of a lineage and to its lists of children.
- `LineageTree.holds_ofObservations`: **a lineage holds what was observed**, nothing else, and each
  child once.
-/

namespace SyscallTrace

namespace ScannedThread

/-- An observation tells of the thread that was seen and of the one that started it, unless the
kernel was seen. It never tells of the kernel. -/
def Tells (o : ScannedThread) (tid : Tid) : Prop :=
  o.tid ≠ .kernel ∧ tid ≠ .kernel ∧ (o.tid = tid ∨ o.parent = tid)

/-- An observation puts a thread below another one, and none of them is the kernel. -/
def Links (o : ScannedThread) (parent child : Tid) : Prop :=
  o.parent = parent ∧ o.tid = child ∧ parent ≠ .kernel ∧ child ≠ .kernel ∧ parent ≠ child

/-- An observation that links two threads tells of the child. -/
theorem Links.tells_child {o : ScannedThread} {parent child : Tid} (h : o.Links parent child) :
    o.Tells child := by
  obtain ⟨-, rfl, -, hchild, -⟩ := h
  exact ⟨hchild, hchild, .inl rfl⟩

end ScannedThread

namespace LineageTree

/-- The lineage of some observations. -/
def ofObservations (observations : List ScannedThread) : LineageTree :=
  observations.foldl (fun tree o => tree.insert o.tid o.parent o.command) empty

/-- The last observation is inserted last. -/
theorem ofObservations_concat (observations : List ScannedThread) (o : ScannedThread) :
    ofObservations (observations ++ [o]) =
      (ofObservations observations).insert o.tid o.parent o.command := by
  rw [ofObservations, List.foldl_append]
  rfl

/-! ## One observation -/

theorem contains_insertNode_iff {tree : LineageTree} {tid other : Tid} {n : LineageNode} :
    contains { nodes := tree.nodes.insert tid n } other = true ↔
      other = tid ∨ tree.contains other = true := by
  rw [contains, contains, Std.ExtTreeMap.contains_insert, Bool.or_eq_true, beq_iff_eq,
    Std.compare_eq_iff_eq]
  exact or_congr_left eq_comm

/-- Adding a child makes a place for its parent only. -/
theorem contains_addChild_iff {tree : LineageTree} {parent child other : Tid} :
    (tree.addChild parent child).contains other = true ↔
      other = parent ∨ tree.contains other = true := by
  rw [addChild]
  split <;> exact contains_insertNode_iff

/-- The threads that a lineage gains by an observation. -/
theorem contains_insert_iff {tree : LineageTree} {o : ScannedThread} {tid : Tid} :
    (tree.insert o.tid o.parent o.command).contains tid = true ↔
      tree.contains tid = true ∨ o.Tells tid := by
  rw [insert, ScannedThread.Tells]
  by_cases hkernel : o.tid.isKernel = true
  · rw [if_pos hkernel]
    rw [Tid.isKernel_iff] at hkernel
    exact ⟨.inl, fun h => h.elim id fun htells => absurd hkernel htells.1⟩
  · rw [if_neg hkernel]
    rw [Tid.isKernel_iff] at hkernel
    have hseen : (tree.setCommand o.tid o.command).contains tid = true ↔
        tid = o.tid ∨ tree.contains tid = true := contains_insertNode_iff
    by_cases hparent : (o.parent.isKernel || o.parent == o.tid) = true
    · -- the parent is no other thread
      rw [if_pos hparent, hseen]
      rw [Bool.or_eq_true, Tid.isKernel_iff, beq_iff_eq] at hparent
      grind
    · rw [if_neg hparent, contains_addChild_iff, hseen]
      rw [Bool.or_eq_true, Tid.isKernel_iff, beq_iff_eq] at hparent
      grind

theorem children_setCommand (tree : LineageTree) (tid : Tid) (command : String) (other : Tid) :
    (tree.setCommand tid command).children other = tree.children other := by
  rw [children, setCommand, node_insert]
  split
  · rename_i h
    rw [← h]
    rfl
  · rfl

/-- A child that is known is not added again. -/
theorem nodup_children_addChild {tree : LineageTree} (h : ∀ tid, (tree.children tid).Nodup)
    (parent child tid : Tid) : ((tree.addChild parent child).children tid).Nodup := by
  rw [children, addChild]
  split
  · rw [node_insert]
    split
    · exact h parent
    · exact h tid
  · rename_i hnew
    rw [node_insert]
    split
    · have hnew : child ∉ tree.children parent := fun hmem => hnew (List.contains_iff_mem.mpr hmem)
      exact List.nodup_append.mpr ⟨h parent, List.pairwise_singleton _ child,
        fun a ha b hb heq => hnew (List.mem_singleton.mp hb ▸ heq ▸ ha)⟩
    · exact h tid

/-- No thread is listed twice among the children of another, as often as it is observed. -/
theorem nodup_children_insert {tree : LineageTree} (h : ∀ tid, (tree.children tid).Nodup)
    (seen parent : Tid) (command : String) (tid : Tid) :
    ((tree.insert seen parent command).children tid).Nodup := by
  have hseen : ∀ tid, ((tree.setCommand seen command).children tid).Nodup := by
    intro tid
    rw [children_setCommand]
    exact h tid
  rw [insert]
  split
  · exact h tid
  · dsimp only
    split
    · exact hseen tid
    · exact nodup_children_addChild hseen parent seen tid

/-! ## All observations -/

/-- A lineage holds what some observations say: the threads that they tell of, the edges between
them, and each child once. -/
structure Holds (tree : LineageTree) (observations : List ScannedThread) : Prop where
  nodes : ∀ tid, tree.contains tid = true ↔ ∃ o ∈ observations, o.Tells tid
  edges : ∀ parent child, tree.IsChild parent child ↔ ∃ o ∈ observations, o.Links parent child
  once : ∀ tid, (tree.children tid).Nodup

theorem holds_empty : empty.Holds [] := by
  have hnone : ∀ p : ScannedThread → Prop, ¬ ∃ o ∈ [], p o := by
    rintro p ⟨o, ho, -⟩
    cases ho
  refine { nodes := fun tid => ?_, edges := fun parent child => ?_, once := fun tid => ?_ }
  · rw [contains, empty, Std.ExtTreeMap.contains_empty]
    exact iff_of_false Bool.false_ne_true (hnone _)
  · exact iff_of_false (not_isChild_empty parent child) (hnone _)
  · rw [List.eq_nil_iff_forall_not_mem.mpr (not_isChild_empty tid)]
    exact List.nodup_nil

namespace Holds

variable {tree : LineageTree} {observations : List ScannedThread}

/-- One more observation adds what it tells, and nothing else. -/
theorem insert (h : tree.Holds observations) (o : ScannedThread) :
    (tree.insert o.tid o.parent o.command).Holds (observations ++ [o]) := by
  have hsplit : ∀ p : ScannedThread → Prop, (∃ a ∈ observations ++ [o], p a) ↔
      (∃ a ∈ observations, p a) ∨ p o := by
    intro p
    simp only [List.mem_append, List.mem_singleton, or_and_right, exists_or, exists_eq_left]
  refine {
    nodes := fun tid => ?_
    edges := fun parent child => ?_
    once := fun tid => nodup_children_insert h.once o.tid o.parent o.command tid }
  · rw [contains_insert_iff, h.nodes, hsplit]
  · rw [isChild_insert_iff, h.edges, hsplit, ScannedThread.Links]
    refine or_congr_right ?_
    rw [eq_comm (a := parent), eq_comm (a := child)]

/-- The kernel is no thread of a lineage. -/
theorem not_contains_kernel (h : tree.Holds observations) : ¬ tree.contains .kernel = true := by
  intro hkernel
  obtain ⟨o, -, -, hne, -⟩ := (h.nodes .kernel).mp hkernel
  exact hne rfl

theorem not_isChild_kernel (h : tree.Holds observations) (parent : Tid) :
    ¬ tree.IsChild parent .kernel := by
  intro hkernel
  obtain ⟨o, -, -, -, -, hne, -⟩ := (h.edges parent .kernel).mp hkernel
  exact hne rfl

/-- No thread is a child of itself, even if it was observed as one. -/
theorem not_isChild_self (h : tree.Holds observations) (tid : Tid) : ¬ tree.IsChild tid tid := by
  intro hself
  obtain ⟨o, -, -, -, -, -, hne⟩ := (h.edges tid tid).mp hself
  exact hne rfl

/-- Every child is a thread of the lineage. -/
theorem contains_of_isChild (h : tree.Holds observations) {parent child : Tid}
    (hchild : tree.IsChild parent child) : tree.contains child = true := by
  obtain ⟨o, ho, hlinks⟩ := (h.edges parent child).mp hchild
  exact (h.nodes child).mpr ⟨o, ho, hlinks.tells_child⟩

end Holds

/-- **A lineage holds what was observed.** -/
theorem holds_ofObservations (observations : List ScannedThread) :
    (ofObservations observations).Holds observations := by
  induction observations using List.reverseRecOn with
  | nil => exact holds_empty
  | append_singleton observations o ih =>
    rw [ofObservations_concat]
    exact ih.insert o

end LineageTree

end SyscallTrace
