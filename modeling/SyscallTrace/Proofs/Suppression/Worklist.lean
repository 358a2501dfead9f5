import Mathlib.Data.List.Flatten
import Mathlib.Logic.Function.Iterate
import SyscallTrace.Proofs.Suppression.Observations

/-!
# Searching with a stack

The descendants of some roots can be found with a set and a stack. The set holds what was found; the
stack holds what is still to be looked at, and may hold a thread more than once. In each step the
thread on top is looked at: if it is new, it goes into the set and its children on top of the stack
(specification §4.7).

A lineage may have cycles, so the depth of a thread says nothing about how long this takes. But each
thread puts its children on the stack only once, namely when it is found. So every edge is followed
at most once, and what lies on the stack together with the children of what was not found yet
becomes less with every step.

- `LineageTree.Search`, `LineageTree.Search.step`: a search and one step of it.
- `LineageTree.Search.Covers`: what every step preserves.
- `LineageTree.Search.Covers.work_step_lt`: the measure that every step makes smaller.
- `LineageTree.Search.Covers.exists_drained`: **a search comes to an end**.
- `LineageTree.descendants_of_observations`: the lineage of any observations, and the search in it.
-/

namespace SyscallTrace

namespace LineageTree

/-- A search that is under way: the threads that it has found, and those that it has still to look
at, the next one in front. -/
structure Search where
  found : TidSet := ∅
  stack : List Tid

namespace Search

variable {tree : LineageTree} {roots : List Tid} {s : Search} {tid : Tid}

/-- A search that starts with the children of some roots. -/
def start (tree : LineageTree) (roots : List Tid) : Search where
  stack := (roots.flatMap tree.children).reverse

/-- Looks at the next thread. If it is new, its children come next. -/
def step (tree : LineageTree) (s : Search) : Search :=
  match s.stack with
  | [] => s
  | tid :: stack =>
    if s.found.contains tid then { s with stack }
    else { found := s.found.insert tid, stack := (tree.children tid).reverse ++ stack }

/-- The search has found a thread, or will look at it. -/
def Knows (s : Search) (tid : Tid) : Prop := tid ∈ s.found ∨ tid ∈ s.stack

/-! ## One step -/

theorem step_of_mem {stack : List Tid} (hstack : s.stack = tid :: stack) (hfound : tid ∈ s.found) :
    s.step tree = { s with stack } := by
  rw [step, hstack]
  exact if_pos (Std.ExtTreeSet.contains_iff_mem.mpr hfound)

theorem step_of_notMem {stack : List Tid} (hstack : s.stack = tid :: stack)
    (hnew : tid ∉ s.found) :
    s.step tree =
      { found := s.found.insert tid, stack := (tree.children tid).reverse ++ stack } := by
  rw [step, hstack]
  exact if_neg (mt Std.ExtTreeSet.contains_iff_mem.mp hnew)

/-- What is known stays known, and with a thread that is new its children become known. -/
theorem knows_step_iff {stack : List Tid} (hstack : s.stack = tid :: stack) {other : Tid} :
    (s.step tree).Knows other ↔ s.Knows other ∨ (tid ∉ s.found ∧ tree.IsChild tid other) := by
  by_cases hfound : tid ∈ s.found
  · rw [step_of_mem hstack hfound, Knows, Knows, hstack, List.mem_cons]
    grind
  · rw [step_of_notMem hstack hfound, Knows, Knows, hstack]
    simp only [Std.ExtTreeSet.mem_insert, Std.compare_eq_iff_eq, List.mem_append,
      List.mem_reverse, List.mem_cons, IsChild]
    grind

theorem mem_found_step_iff {stack : List Tid} (hstack : s.stack = tid :: stack) {other : Tid} :
    other ∈ (s.step tree).found ↔ other = tid ∨ other ∈ s.found := by
  by_cases hfound : tid ∈ s.found
  · rw [step_of_mem hstack hfound]
    grind
  · rw [step_of_notMem hstack hfound]
    simp only [Std.ExtTreeSet.mem_insert, Std.compare_eq_iff_eq]
    grind

/-! ## What every step preserves -/

/-- What is true of a search from some roots at any time: it knows only what is below a root, it
knows the children of the roots, and it knows the children of all that it has found. -/
structure Covers (tree : LineageTree) (roots : List Tid) (s : Search) : Prop where
  below : ∀ tid, s.Knows tid → ∃ root ∈ roots, Relation.TransGen tree.IsChild root tid
  ofRoot : ∀ root ∈ roots, ∀ tid, tree.IsChild root tid → s.Knows tid
  ofFound : ∀ parent ∈ s.found, ∀ tid, tree.IsChild parent tid → s.Knows tid

theorem covers_start (tree : LineageTree) (roots : List Tid) :
    Covers tree roots (start tree roots) := by
  have hknows : ∀ tid, (start tree roots).Knows tid ↔ ∃ root ∈ roots, tree.IsChild root tid := by
    intro tid
    rw [Knows, start, List.mem_reverse, List.mem_flatMap]
    exact or_iff_right Std.ExtTreeSet.not_mem_empty
  refine { below := fun tid h => ?_, ofRoot := fun root hroot tid h => ?_, ofFound := ?_ }
  · obtain ⟨root, hroot, hchild⟩ := (hknows tid).mp h
    exact ⟨root, hroot, .single hchild⟩
  · exact (hknows tid).mpr ⟨root, hroot, h⟩
  · intro parent hparent
    exact absurd hparent Std.ExtTreeSet.not_mem_empty

theorem Covers.step (h : Covers tree roots s) : Covers tree roots (s.step tree) := by
  cases hstack : s.stack with
  | nil =>
    rw [Search.step, hstack]
    exact h
  | cons next stack =>
    refine { below := ?_, ofRoot := ?_, ofFound := ?_ }
    · intro tid hknows
      rcases (knows_step_iff hstack).mp hknows with hknows | ⟨-, hchild⟩
      · exact h.below tid hknows
      · obtain ⟨root, hroot, hpath⟩ := h.below next (.inr (hstack ▸ List.mem_cons_self))
        exact ⟨root, hroot, hpath.tail hchild⟩
    · intro root hroot tid hchild
      exact (knows_step_iff hstack).mpr (.inl (h.ofRoot root hroot tid hchild))
    · intro parent hparent tid hchild
      rw [knows_step_iff hstack]
      by_cases hfound : parent ∈ s.found
      · exact .inl (h.ofFound parent hfound tid hchild)
      · -- the only thread that is found in this step is the next one
        rcases (mem_found_step_iff hstack).mp hparent with rfl | hparent
        · exact .inr ⟨hfound, hchild⟩
        · exact absurd hparent hfound

/-- Once nothing is left to look at, all that is below a root was found. -/
theorem Covers.mem_found_iff (h : Covers tree roots s) (hstack : s.stack = []) :
    tid ∈ s.found ↔ ∃ root ∈ roots, Relation.TransGen tree.IsChild root tid := by
  have hknows : ∀ tid, s.Knows tid ↔ tid ∈ s.found := by
    intro tid
    rw [Knows, hstack]
    exact or_iff_left List.not_mem_nil
  constructor
  · intro hfound
    exact h.below tid ((hknows tid).mpr hfound)
  · rintro ⟨root, hroot, hpath⟩
    induction hpath with
    | single hchild => exact (hknows _).mp (h.ofRoot root hroot _ hchild)
    | tail _ hchild ih => exact (hknows _).mp (h.ofFound _ ih _ hchild)

/-! ## The end -/

/-- The edges that start at threads that were not found yet. -/
def unfollowed (tree : LineageTree) (s : Search) : List Tid :=
  (tree.started.filter (fun tid => !s.found.contains tid)).flatMap tree.children

/-- What is left to do: what lies on the stack, and what can still be put there. -/
def work (tree : LineageTree) (s : Search) : Nat := s.stack.length + (s.unfollowed tree).length

theorem length_flatMap_filter_le {tids : List Tid} (h : tid ∈ tids) (f : Tid → List Tid) :
    ((tids.filter (· ≠ tid)).flatMap f).length + (f tid).length ≤ (tids.flatMap f).length := by
  obtain ⟨front, back, rfl⟩ := List.append_of_mem h
  have hless : ∀ part : List Tid,
      ((part.filter (· ≠ tid)).flatMap f).length ≤ (part.flatMap f).length := fun part =>
    (List.filter_sublist.flatMap f).length_le
  have hfront := hless front
  have hback := hless back
  rw [List.filter_append, List.filter_cons_of_neg (by simp)]
  simp only [List.flatMap_append, List.flatMap_cons, List.length_append]
  omega

/-- With a thread that is found, its edges are followed. -/
theorem unfollowed_insert (tree : LineageTree) (s : Search) (stack : List Tid) (tid : Tid) :
    unfollowed tree { found := s.found.insert tid, stack } =
      ((tree.started.filter (fun tid => !s.found.contains tid)).filter (· ≠ tid)).flatMap
        tree.children := by
  rw [unfollowed, List.filter_filter]
  congr 2
  funext other
  rw [Std.ExtTreeSet.contains_insert]
  by_cases h : other = tid
  · simp [h]
  · simp [h, Ne.symm h]

/-- Every thread that a search will look at was started by another one. -/
theorem Covers.mem_started (h : Covers tree roots s) (htid : tid ∈ s.stack) :
    tid ∈ tree.started := by
  obtain ⟨root, -, hpath⟩ := h.below tid (.inr htid)
  cases hpath with
  | single hchild => exact LineageTree.mem_started hchild
  | tail _ hchild => exact LineageTree.mem_started hchild

/-- Every step leaves less to do. -/
theorem Covers.work_step_lt (h : Covers tree roots s) {next : Tid} {stack : List Tid}
    (hstack : s.stack = next :: stack) : (s.step tree).work tree < s.work tree := by
  by_cases hfound : next ∈ s.found
  · rw [step_of_mem hstack hfound, work, work, hstack, List.length_cons]
    exact Nat.add_lt_add_right (Nat.lt_succ_self _) _
  · have hmem : next ∈ tree.started.filter (fun tid => !s.found.contains tid) := by
      rw [List.mem_filter, Bool.not_eq_true', ← Bool.not_eq_true, Std.ExtTreeSet.contains_iff_mem]
      exact ⟨h.mem_started (hstack ▸ List.mem_cons_self), hfound⟩
    have hless := length_flatMap_filter_le hmem tree.children
    rw [step_of_notMem hstack hfound, work, work, unfollowed_insert, unfollowed, hstack,
      List.length_append, List.length_reverse, List.length_cons]
    omega

/-- **A search comes to an end**, after no more steps than there is work at its start. -/
theorem Covers.exists_drained (h : Covers tree roots s) :
    ∃ steps ≤ s.work tree, ((Search.step tree)^[steps] s).stack = [] ∧
      Covers tree roots ((Search.step tree)^[steps] s) := by
  induction hwork : s.work tree using Nat.strongRecOn generalizing s with
  | _ n ih =>
    subst hwork
    cases hstack : s.stack with
    | nil => exact ⟨0, Nat.zero_le _, hstack, h⟩
    | cons next stack =>
      have hlt := h.work_step_lt hstack
      obtain ⟨steps, hle, hdrained⟩ := ih _ hlt h.step rfl
      exact ⟨steps + 1, Nat.succ_le_of_lt (Nat.lt_of_le_of_lt hle hlt), hdrained⟩

/-- At its start a search has to do with each child of a root, and at most once with each edge. -/
theorem work_start (tree : LineageTree) (roots : List Tid) :
    (start tree roots).work tree =
      (roots.flatMap tree.children).length + (tree.started.flatMap tree.children).length := by
  rw [work, unfollowed, start, List.length_reverse]
  congr 3
  refine List.filter_eq_self.mpr fun tid _ => ?_
  rw [Std.ExtTreeSet.contains_empty]
  rfl

/-- What is found is what the lineage has as descendants of the roots. -/
theorem exists_descendants (tree : LineageTree) (roots : List Tid) :
    ∃ steps ≤ (roots.flatMap tree.children).length + (tree.started.flatMap tree.children).length,
      (step tree)^[steps] (start tree roots) =
        { found := tree.descendants roots, stack := [] } := by
  obtain ⟨steps, hle, hstack, hcovers⟩ := (covers_start tree roots).exists_drained
  rw [work_start] at hle
  refine ⟨steps, hle, ?_⟩
  generalize (step tree)^[steps] (start tree roots) = last at hstack hcovers
  obtain ⟨found, stack⟩ := last
  have hfound : found = tree.descendants roots :=
    Std.ExtTreeSet.ext_mem fun tid => (hcovers.mem_found_iff hstack).trans mem_descendants_iff.symm
  rw [hfound, show stack = [] from hstack]

end Search

/-- **The lineage of some observations, and what is below some roots.** Whatever was observed, and
in whatever order, the lineage holds the threads that were seen and those that started one of them,
and the edges between them, each once; the kernel is nowhere in it, and no thread is its own child.
A search from any roots ends after a number of steps that the edges bound, and has then found the
descendants of the roots: the threads to which a path of one edge or more leads from a root. -/
theorem descendants_of_observations (observations : List ScannedThread) :
    let tree := ofObservations observations
    (∀ tid, tree.contains tid = true ↔
      tid ≠ .kernel ∧ ∃ o ∈ observations,
        o.tid ≠ .kernel ∧ (o.tid = tid ∨ (o.parent = tid ∧ o.parent ≠ o.tid))) ∧
    (∀ parent child, child ∈ tree.children parent ↔
      parent ≠ .kernel ∧ child ≠ .kernel ∧ parent ≠ child ∧
        ∃ o ∈ observations, o.tid = child ∧ o.parent = parent) ∧
    tree.contains .kernel = false ∧
    (∀ tid, Tid.kernel ∉ tree.children tid ∧ tid ∉ tree.children tid ∧
      (tree.children tid).Nodup ∧ ∀ child ∈ tree.children tid, tree.contains child = true) ∧
    ∀ roots,
      (∃ steps ≤ (roots.flatMap tree.children).length +
          (tree.started.flatMap tree.children).length,
        (Search.step tree)^[steps] (.start tree roots) =
          { found := tree.descendants roots, stack := [] }) ∧
      ∀ tid, tid ∈ tree.descendants roots ↔
        ∃ root ∈ roots,
          Relation.TransGen (fun parent child => child ∈ tree.children parent) root tid := by
  intro tree
  have h : tree.Holds observations := holds_ofObservations observations
  refine ⟨fun tid => ?_, fun parent child => ?_, Bool.eq_false_iff.mpr h.not_contains_kernel,
    fun tid => ?_, fun roots => ?_⟩
  · rw [h.nodes tid]
    constructor
    · rintro ⟨o, ho, hseen, hne, htells⟩
      refine ⟨hne, o, ho, hseen, ?_⟩
      -- a thread that names itself as its parent is told of as the child
      by_cases hself : o.tid = tid
      · exact .inl hself
      · obtain hparent := htells.resolve_left hself
        exact .inr ⟨hparent, fun heq => hself (heq ▸ hparent)⟩
    · rintro ⟨hne, o, ho, hseen, htells⟩
      exact ⟨o, ho, hseen, hne, htells.imp_right And.left⟩
  · show tree.IsChild parent child ↔ _
    rw [h.edges parent child]
    constructor
    · rintro ⟨o, ho, hparent, hchild, hlinks⟩
      exact ⟨hlinks.1, hlinks.2.1, hlinks.2.2, o, ho, hchild, hparent⟩
    · rintro ⟨hparent, hchild, hne, o, ho, htid, hfrom⟩
      exact ⟨o, ho, hfrom, htid, hparent, hchild, hne⟩
  · exact ⟨h.not_isChild_kernel tid, h.not_isChild_self tid, h.once tid,
      fun child hchild => h.contains_of_isChild hchild⟩
  · exact ⟨Search.exists_descendants tree roots, fun tid => mem_descendants_iff⟩

end LineageTree

end SyscallTrace
