import Mathlib.Logic.Relation
import SyscallTrace.Suppression.Lineage

/-!
# Descendants

A lineage is a relation between threads, kept as a list of children for every thread. It can have
cycles, and a thread can have several parents, so what is below a thread is whatever a path of this
relation leads to, however the path was found (specification §3, §4.7).

- `LineageTree.IsChild`: the relation.
- `LineageTree.isChild_insert_iff`: what one observation adds to it.
- `LineageTree.mem_gather_of_path`: the search misses nothing that a path leads to.
- `LineageTree.mem_descendants_iff`: **the descendants of some roots** are the threads to which a
  path of one step or more leads from a root.
-/

namespace SyscallTrace

namespace LineageTree

/-- A thread is among those that another one started. -/
def IsChild (tree : LineageTree) (parent child : Tid) : Prop := child ∈ tree.children parent

/-! ## Observations -/

theorem not_isChild_empty (parent child : Tid) : ¬ empty.IsChild parent child := by
  have hnode : empty.node parent = {} := by
    rw [node, empty, Std.ExtTreeMap.getElem?_empty, Option.getD_none]
  rw [IsChild, children, hnode]
  exact List.not_mem_nil

theorem node_insert (tree : LineageTree) (tid : Tid) (n : LineageNode) (other : Tid) :
    node { nodes := tree.nodes.insert tid n } other = if tid = other then n else tree.node other := by
  rw [node, Std.ExtTreeMap.getElem?_insert]
  by_cases h : tid = other
  · rw [if_pos (Std.compare_eq_iff_eq.mpr h), if_pos h, Option.getD_some]
  · rw [if_neg (mt Std.compare_eq_iff_eq.mp h), if_neg h, node]

/-- The command of a thread does not matter for who started whom. -/
theorem isChild_setCommand_iff {tree : LineageTree} {tid parent child : Tid} {command : String} :
    (tree.setCommand tid command).IsChild parent child ↔ tree.IsChild parent child := by
  rw [IsChild, children, setCommand, node_insert]
  split
  · rename_i h
    subst h
    rfl
  · rfl

theorem isChild_addChild_iff {tree : LineageTree} {tid started parent child : Tid} :
    (tree.addChild tid started).IsChild parent child ↔
      tree.IsChild parent child ∨ (parent = tid ∧ child = started) := by
  by_cases htid : tid = parent
  · subst htid
    rw [IsChild, children, addChild]
    split
    · rename_i hknown
      have hknown : tree.IsChild tid started := List.contains_iff_mem.mp hknown
      rw [node_insert, if_pos rfl]
      exact ⟨.inl, fun h => h.elim id fun ⟨_, hchild⟩ => hchild ▸ hknown⟩
    · rw [node_insert, if_pos rfl, List.mem_append, List.mem_singleton]
      simp only [IsChild, children, true_and]
  · have hsame : (tree.addChild tid started).children parent = tree.children parent := by
      rw [children, addChild]
      split <;> rw [node_insert, if_neg htid, children]
    rw [IsChild, hsame]
    exact ⟨.inl, fun h => h.elim id fun ⟨hparent, _⟩ => absurd hparent.symm htid⟩

/-- An observation makes a thread the child of its parent, unless one of them is the kernel or both
are the same. -/
theorem isChild_insert_iff {tree : LineageTree} {tid started parent child : Tid}
    {command : String} :
    (tree.insert started tid command).IsChild parent child ↔
      tree.IsChild parent child ∨
        (parent = tid ∧ child = started ∧ parent ≠ .kernel ∧ child ≠ .kernel ∧ parent ≠ child) := by
  rw [insert]
  by_cases hstarted : started.isKernel = true
  · rw [if_pos hstarted]
    rw [Tid.isKernel_iff] at hstarted
    grind
  · rw [if_neg hstarted]
    rw [Tid.isKernel_iff] at hstarted
    dsimp only
    by_cases htid : (tid.isKernel || tid == started) = true
    · rw [if_pos htid, isChild_setCommand_iff]
      rw [Bool.or_eq_true, Tid.isKernel_iff, beq_iff_eq] at htid
      grind
    · rw [if_neg htid, isChild_addChild_iff, isChild_setCommand_iff]
      rw [Bool.or_eq_true, Tid.isKernel_iff, beq_iff_eq] at htid
      grind

/-! ## The search -/

/-- The started threads are enough to search, since every child is one of them. -/
theorem mem_started {tree : LineageTree} {parent child : Tid} (h : tree.IsChild parent child) :
    child ∈ tree.started := by
  rw [started, List.mem_eraseDups, List.mem_flatMap]
  rw [IsChild, children, node] at h
  cases hnode : tree.nodes[parent]? with
  | none =>
    rw [hnode] at h
    cases h
  | some n =>
    rw [hnode] at h
    exact ⟨(parent, n), Std.ExtTreeMap.mem_toList_iff_getElem?_eq_some.mpr hnode, h⟩

/-- The search finds nothing but pending threads and what is below them. -/
theorem path_of_mem_gather {tree : LineageTree} {remaining pending : List Tid} {tid : Tid}
    (h : tid ∈ tree.gather remaining pending) :
    ∃ start ∈ pending, Relation.ReflTransGen tree.IsChild start tid := by
  fun_induction gather tree remaining pending with
  | case1 remaining pending hnone => cases h
  | case2 remaining pending found hfound ih =>
    have hpending : found ∈ pending := List.mem_of_find?_eq_some hfound
    rcases List.mem_cons.mp h with rfl | h
    · exact ⟨tid, hpending, .refl⟩
    · obtain ⟨start, hstart, hpath⟩ := ih h
      rcases List.mem_append.mp hstart with hchild | hstart
      · exact ⟨found, hpending, hpath.head hchild⟩
      · exact ⟨start, hstart, hpath⟩

/-- The search finds every pending thread that remains. -/
theorem mem_gather_of_mem {tree : LineageTree} {remaining pending : List Tid} {tid : Tid}
    (hpending : tid ∈ pending) (hremaining : tid ∈ remaining) :
    tid ∈ tree.gather remaining pending := by
  fun_induction gather tree remaining pending with
  | case1 remaining pending hnone =>
    exact absurd (List.contains_iff_mem.mpr hremaining) (List.find?_eq_none.mp hnone tid hpending)
  | case2 remaining pending found hfound ih =>
    by_cases heq : tid = found
    · exact List.mem_cons.mpr (.inl heq)
    · have herase : tid ∈ remaining.erase found := (List.mem_erase_of_ne heq).mpr hremaining
      exact List.mem_cons_of_mem _ (ih (List.mem_append_right _ hpending) herase)

/-- With a thread, the search finds each of its children that remains. -/
theorem mem_gather_of_isChild {tree : LineageTree} {remaining pending : List Tid}
    {parent child : Tid} (hparent : parent ∈ tree.gather remaining pending)
    (hchild : tree.IsChild parent child) (hremaining : child ∈ remaining) :
    child ∈ tree.gather remaining pending := by
  fun_induction gather tree remaining pending with
  | case1 remaining pending hnone => cases hparent
  | case2 remaining pending found hfound ih =>
    by_cases heq : child = found
    · exact List.mem_cons.mpr (.inl heq)
    · have herase : child ∈ remaining.erase found := (List.mem_erase_of_ne heq).mpr hremaining
      refine List.mem_cons_of_mem _ ?_
      rcases List.mem_cons.mp hparent with rfl | hparent
      · -- its children become pending when the thread is found
        exact mem_gather_of_mem (List.mem_append_left _ hchild) herase
      · exact ih hparent herase

/-- The search misses nothing that a path from a root leads to. -/
theorem mem_gather_of_path {tree : LineageTree} {roots : List Tid} {root tid : Tid}
    (hroot : root ∈ roots) (hpath : Relation.TransGen tree.IsChild root tid) :
    tid ∈ tree.gather tree.started (roots.flatMap tree.children) := by
  induction hpath with
  | single hchild =>
    exact mem_gather_of_mem (List.mem_flatMap.mpr ⟨root, hroot, hchild⟩) (mem_started hchild)
  | tail _ hchild ih => exact mem_gather_of_isChild ih hchild (mem_started hchild)

/-- **The descendants of some roots** are the threads to which a path of one step or more leads
from a root, whether there are cycles or not. -/
theorem mem_descendants_iff {tree : LineageTree} {roots : List Tid} {tid : Tid} :
    tid ∈ tree.descendants roots ↔ ∃ root ∈ roots, Relation.TransGen tree.IsChild root tid := by
  rw [descendants, Std.ExtTreeSet.mem_ofList, List.contains_iff_mem]
  constructor
  · intro h
    obtain ⟨start, hstart, hpath⟩ := path_of_mem_gather h
    obtain ⟨root, hroot, hchild⟩ := List.mem_flatMap.mp hstart
    exact ⟨root, hroot, .head' hchild hpath⟩
  · rintro ⟨root, hroot, hpath⟩
    exact mem_gather_of_path hroot hpath

end LineageTree

end SyscallTrace
